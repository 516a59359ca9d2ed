/-
The known class that a name or a type is resolved to.

A search goes through tiers of classes, one after the other, and gives the least class in name order of the first tier
that any known class belongs to. `Best` says which class that is, whatever the search: there is at most one
(`Best.unique`), and there is none exactly when every tier is vacant (`best_none_iff`), so that a larger set of classes
leaves nothing unresolved that a smaller one resolves. The search of a type is the one of a name with a tier more in
front, and the two agree where that tier is vacant. Main statement: `resolves_best`.
-/
import Mathlib.Data.List.TakeWhile
import CodeSurvey.Names
import CodeSurvey.Proofs.Text.Blanks

namespace CodeSurvey.Names

open Text

/-! ## Searches by tiers -/

/-- no known class belongs to the tier -/
def Vacant (known : NameSet) (tier : String → Prop) : Prop := ∀ c ∈ known.toList, ¬ tier c

/-- the first known class of the tier in name order -/
structure Least (known : NameSet) (tier : String → Prop) (c : String) : Prop where
  mem : c ∈ known.toList
  belongs : tier c
  least : ∀ d ∈ known.toList, tier d → c ≤ d

/-- the least class of the first tier that is not vacant -/
inductive Best (known : NameSet) : List (String → Prop) → Option String → Prop
  | nowhere : Best known [] none
  | here {tier : String → Prop} {tiers : List (String → Prop)} {c : String} (h : Least known tier c) :
    Best known (tier :: tiers) (some c)
  | later {tier : String → Prop} {tiers : List (String → Prop)} {r : Option String} (h : Vacant known tier)
    (hr : Best known tiers r) : Best known (tier :: tiers) r

variable {known : NameSet} {tier : String → Prop} {tiers : List (String → Prop)} {r r' : Option String}

theorem Least.unique {c d : String} (hc : Least known tier c) (hd : Least known tier d) : c = d :=
  String.le_antisymm (hc.least d hd.mem hd.belongs) (hd.least c hc.mem hc.belongs)

theorem Least.not_vacant {c : String} (h : Least known tier c) : ¬ Vacant known tier :=
  fun hvacant => hvacant c h.mem h.belongs

/-- A search by tiers has one result. -/
theorem Best.unique (h : Best known tiers r) (h' : Best known tiers r') : r = r' := by
  induction h generalizing r' with
  | nowhere =>
    cases h'
    rfl
  | here hc =>
    cases h' with
    | here hd => rw [hc.unique hd]
    | later hvacant _ => exact absurd hvacant hc.not_vacant
  | later hvacant _ ih =>
    cases h' with
    | here hd => exact absurd hvacant hd.not_vacant
    | later _ hr' => exact ih hr'

/-- A search fails exactly when every tier is vacant. -/
theorem best_none_iff : Best known tiers none ↔ ∀ tier ∈ tiers, Vacant known tier := by
  constructor
  · intro h
    generalize hr : (none : Option String) = r at h
    induction h with
    | nowhere => exact fun _ htier => absurd htier List.not_mem_nil
    | here _ => exact nomatch hr
    | later hvacant _ ih => exact List.forall_mem_cons.2 ⟨hvacant, ih hr⟩
  · intro h
    induction tiers with
    | nil => exact .nowhere
    | cons tier tiers ih =>
      obtain ⟨hvacant, htiers⟩ := List.forall_mem_cons.1 h
      exact .later hvacant (ih htiers)

theorem Best.fewer {larger : NameSet} (hsub : ∀ c ∈ known.toList, c ∈ larger.toList) (h : Best larger tiers none) :
    Best known tiers none :=
  best_none_iff.2 fun tier htier c hc => best_none_iff.1 h tier htier c (hsub c hc)

/-! ## Tiers in name order -/

theorem rising_toList (known : NameSet) : known.toList.Pairwise (· < ·) :=
  List.pairwise_map.2 known.rising

/-- what a search in name order finds first is the least -/
theorem least_of_find? {p : String → Bool} (hp : ∀ c, p c = true ↔ tier c) {c : String}
    (h : known.toList.find? p = some c) : Least known tier c := by
  obtain ⟨hc, front, back, hknown, hfront⟩ := List.find?_eq_some_iff_append.1 h
  have hrising := rising_toList known
  rw [hknown] at hrising
  obtain ⟨-, hback, -⟩ := List.pairwise_append.1 hrising
  refine ⟨List.mem_of_find?_eq_some h, (hp c).1 hc, fun d hd htier => ?_⟩
  rw [hknown] at hd
  rcases List.mem_append.1 hd with hd | hd
  · exact absurd ((hp d).2 htier) (by simpa using hfront d hd)
  · rcases List.mem_cons.1 hd with rfl | hd
    · exact String.le_refl d
    · exact fun hlt => OrderedKey.lt_irrefl d (OrderedKey.lt_trans hlt ((List.pairwise_cons.1 hback).1 d hd))

/-- a tier searched before others -/
theorem best_or {p : String → Bool} (hp : ∀ c, p c = true ↔ tier c) (h : Best known tiers r) :
    Best known (tier :: tiers) ((known.toList.find? p).or r) := by
  cases hfind : known.toList.find? p with
  | some c => exact .here (least_of_find? hp hfind)
  | none => exact .later (fun c hc htier => List.find?_eq_none.1 hfind c hc ((hp c).2 htier)) h

/-! ## The tiers of names and types -/

theorem occursIn_iff (part text : List Char) : occursIn part text = true ↔ part <:+: text := by
  induction text with
  | nil => rw [occursIn, List.isEmpty_iff, List.infix_nil]
  | cons c cs ih => rw [occursIn, Bool.or_eq_true, List.isPrefixOf_iff_prefix, ih, List.infix_cons_iff]

/-- the classes with the core of the name, then those whose core contains that core or is contained in it -/
def coreTiers (name : String) : List (String → Prop) :=
  [fun c => core c = core name,
    fun c => (core name).toList <:+: (core c).toList ∨ (core c).toList <:+: (core name).toList]

/-- the class with the type's simple name, then the tiers of that name -/
def typeTiers (declared : String) : List (String → Prop) :=
  (fun c => c = simpleType declared) :: coreTiers (simpleType declared)

theorem coresOverlap_iff (a b : String) :
    coresOverlap a b = true ↔ b.toList <:+: a.toList ∨ a.toList <:+: b.toList := by
  rw [coresOverlap, Bool.or_eq_true, contains, contains, occursIn_iff, occursIn_iff]

theorem best_resolve (name : String) (known : NameSet) : Best known (coreTiers name) (resolve name known) := by
  have hoverlap := best_or (fun c => coresOverlap_iff (core c) (core name)) (Best.nowhere : Best known [] none)
  rw [resolve, resolveCore, Option.orElse_eq_or]
  rw [Option.or_none] at hoverlap
  exact best_or (fun c => beq_iff_eq) hoverlap

theorem best_resolveType (declared : String) (known : NameSet) :
    Best known (typeTiers declared) (resolveType declared known) := by
  rw [resolveType]
  split
  · next hsimple =>
    exact .here ⟨(Ordered.contains_iff known _).1 hsimple, rfl, fun d _ hd => hd ▸ String.le_refl d⟩
  · next hsimple =>
    refine .later (fun c hc heq => hsimple ?_) (best_resolve (simpleType declared) known)
    exact (Ordered.contains_iff known _).2 (heq ▸ hc)

theorem resolve_eq_iff (name : String) (known : NameSet) (r : Option String) :
    resolve name known = r ↔ Best known (coreTiers name) r := by
  constructor
  · rintro rfl
    exact best_resolve name known
  · exact (best_resolve name known).unique

theorem resolveType_eq_iff (declared : String) (known : NameSet) (r : Option String) :
    resolveType declared known = r ↔ Best known (typeTiers declared) r := by
  constructor
  · rintro rfl
    exact best_resolveType declared known
  · exact (best_resolveType declared known).unique

/-! ## Receivers -/

/-- a word is its own simple name -/
theorem simpleType_of_word {word : String} (h : ∀ c ∈ word.toList, isWord c = true) : simpleType word = word := by
  have hmark : ∀ mark : Char, isWord mark = false → ∀ c ∈ word.toList, (c == mark) = false := by
    intro mark hmark c hc
    refine beq_eq_false_iff_ne.2 fun heq => ?_
    rw [← heq, h c hc] at hmark
    exact nomatch hmark
  have hblank : ∀ c ∈ word.toList, isBlank c = false := by
    intro c hc
    rw [← Bool.not_eq_true]
    exact fun hblank => absurd (h c hc) (by simp [isWord_of_isBlank hblank])
  have hbefore : beforeFirst word '<' = word := by
    have hall : word.toList.takeWhile (· != '<') = word.toList :=
      List.takeWhile_eq_self_iff.2 fun c hc => by simp [bne, hmark '<' (by decide) c hc]
    rw [beforeFirst, hall, String.ofList_toList]
  have htrimmed : trimmed word = word := by
    have hkept : ∀ cs : List Char, (∀ c ∈ cs, isBlank c = false) → cs.dropWhile isBlank = cs := by
      intro cs hcs
      cases cs with
      | nil => rfl
      | cons c cs => exact List.dropWhile_cons_of_neg (by simp [hcs c List.mem_cons_self])
    rw [trimmed, trim, trimStart, hkept _ hblank, trimEnd, hkept _ fun c hc => hblank c (List.mem_reverse.1 hc),
      List.reverse_reverse, String.ofList_toList]
  have hafter : afterLast word '.' = word := by
    rw [afterLast, split, splitBy_of_none (hmark '.' (by decide)), List.map_singleton, String.ofList_toList]
    rfl
  rw [simpleType, hbefore, htrimmed, hafter]

/-- a word that is no known class is searched alike as a type and as a name -/
theorem resolveType_eq_resolve {word : String} {known : NameSet} (hword : ∀ c ∈ word.toList, isWord c = true)
    (hunknown : word ∉ known.toList) : resolveType word known = resolve word known := by
  have hvacant : Vacant known fun c => c = simpleType word := by
    intro c hc heq
    rw [simpleType_of_word hword] at heq
    exact hunknown (heq ▸ hc)
  refine (resolveType_eq_iff word known _).2 (.later hvacant ?_)
  rw [simpleType_of_word hword]
  exact best_resolve word known

/-- **A type and a receiver are resolved to the least class of their best tier**, so to a known class or, when all tiers
are vacant, to none. They agree on a word that is no known class, and with more known classes nothing is resolved to
none that was resolved before. -/
theorem resolves_best (declared receiver : String) (known : NameSet) :
    (∀ r, resolveType declared known = r ↔ Best known (typeTiers declared) r) ∧
    (∀ r, resolve receiver known = r ↔ Best known (coreTiers receiver) r) ∧
    (resolveType declared known = none ↔ ∀ tier ∈ typeTiers declared, Vacant known tier) ∧
    (resolve receiver known = none ↔ ∀ tier ∈ coreTiers receiver, Vacant known tier) ∧
    ((∀ c ∈ receiver.toList, isWord c = true) → receiver ∉ known.toList →
      resolveType receiver known = resolve receiver known) ∧
    (∀ c, resolveType declared known = some c ∨ resolve receiver known = some c → c ∈ known.toList) ∧
    (∀ larger : NameSet, (∀ c ∈ known.toList, c ∈ larger.toList) →
      (resolveType declared known ≠ none → resolveType declared larger ≠ none) ∧
      (resolve receiver known ≠ none → resolve receiver larger ≠ none)) := by
  have htype := fun known r => resolveType_eq_iff declared known r
  have hname := fun known r => resolve_eq_iff receiver known r
  refine ⟨htype known, hname known, (htype known none).trans best_none_iff, (hname known none).trans best_none_iff,
    resolveType_eq_resolve, ?_, ?_⟩
  · rintro c (hc | hc)
    · exact mem_of_resolveType hc
    · exact mem_of_resolve hc
  · intro larger hsub
    constructor
    · intro hresolved hnone
      exact hresolved ((htype known none).2 (((htype larger none).1 hnone).fewer hsub))
    · intro hresolved hnone
      exact hresolved ((hname known none).2 (((hname larger none).1 hnone).fewer hsub))

/-- two classes of one core and another one -/
def shopClasses : NameSet := NameSet.ofList ["UserService", "OrderServiceImpl", "OrderRepository"]

theorem resolves_best_shop :
    (∀ c ∈ "orderDao".toList, isWord c = true) ∧ "orderDao" ∉ shopClasses.toList ∧
    resolveType "orderDao" shopClasses = resolve "orderDao" shopClasses ∧
    resolve "orderDao" shopClasses = some "OrderRepository" ∧ "OrderRepository" ∈ shopClasses.toList ∧
    resolveType "com.shop.User<T>" shopClasses = some "UserService" ∧
    resolveType "com.shop.User<T>" (shopClasses.add "User") ≠ none := by
  obtain ⟨-, -, -, -, hagree, hmem, hmore⟩ := resolves_best "com.shop.User<T>" "orderDao" shopClasses
  have hword : ∀ c ∈ "orderDao".toList, isWord c = true := List.all_eq_true.1 (by decide +kernel)
  have hunknown : "orderDao" ∉ shopClasses.toList := by decide +kernel
  have hname : resolve "orderDao" shopClasses = some "OrderRepository" := by decide +kernel
  have htype : resolveType "com.shop.User<T>" shopClasses = some "UserService" := by decide +kernel
  have hsub : ∀ c ∈ shopClasses.toList, c ∈ (shopClasses.add "User").toList := by decide +kernel
  refine ⟨hword, hunknown, hagree hword hunknown, hname, hmem _ (.inr hname), htype, ?_⟩
  exact (hmore (shopClasses.add "User") hsub).1 (by rw [htype]; exact Option.some_ne_none _)

end CodeSurvey.Names
