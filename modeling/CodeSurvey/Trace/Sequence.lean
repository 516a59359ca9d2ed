/-
Operations, edges and sequences.

An operation is what an entry point offers to the outside. A sequence is an operation with the calls that it leads to,
as edges between classes. An `EdgeSet` keeps edges in the order in which they were found, no two with the same caller,
callee and method; that they differ is part of its type.
-/
import CodeSurvey.Names
import CodeSurvey.Role

namespace CodeSurvey

/-- an externally reachable operation of an entry point -/
structure Operation where
  name : String
  requestType : Option String
  /-- `name: Type` for each field of the payload -/
  requestFields : List String
  responseType : Option String
  responseStatus : Option String
  deriving DecidableEq, Repr

def Operation.named (name : String) : Operation := ⟨name, none, [], none, none⟩

/-- a call from one class into another -/
structure Edge where
  caller : String
  callee : String
  method : String
  /-- the method as a reader sees it -/
  label : String
  calleeRole : Role
  deriving DecidableEq, Repr

namespace Edge

def make (caller callee method : String) (calleeRole : Role) : Edge :=
  ⟨caller, callee, method, Names.label method, calleeRole⟩

/-- what makes two edges the same -/
def key (e : Edge) : String × String × String := (e.caller, e.callee, e.method)

end Edge

/-- edges in the order found, all with different keys -/
structure EdgeSet where
  edges : List Edge
  distinct : (edges.map Edge.key).Nodup

namespace EdgeSet

def empty : EdgeSet := ⟨[], .nil⟩

/-- an edge with this key is there -/
def holds (s : EdgeSet) (e : Edge) : Bool := (s.edges.map Edge.key).contains e.key

/-- the set with the edge behind the others, unless its key is there -/
def push (s : EdgeSet) (e : Edge) : EdgeSet :=
  if h : s.holds e then s
  else
    ⟨s.edges ++ [e], by
      have h : e.key ∉ s.edges.map Edge.key := by simpa [holds] using h
      rw [List.map_append, List.nodup_append]
      exact ⟨s.distinct, by simp, by
        intro a ha b hb
        simp only [List.map_cons, List.map_nil, List.mem_singleton] at hb
        exact fun hab => h (hb ▸ hab ▸ ha)⟩⟩

theorem holds_iff (s : EdgeSet) (e : Edge) : s.holds e = true ↔ e.key ∈ s.edges.map Edge.key := by
  simp [holds]

theorem edges_push (s : EdgeSet) (e : Edge) : (s.push e).edges = if s.holds e then s.edges else s.edges ++ [e] := by
  unfold push
  split <;> rfl

theorem push_of_holds {s : EdgeSet} {e : Edge} (h : s.holds e = true) : s.push e = s := by
  simp [push, h]

/-- A set holds an edge after a push exactly if it held it before or was given one with its key. -/
theorem holds_push (s : EdgeSet) (e f : Edge) : (s.push e).holds f = true ↔ s.holds f = true ∨ f.key = e.key := by
  simp only [holds_iff, edges_push]
  split
  · rename_i h
    exact ⟨.inl, fun hf => hf.elim id fun hk => hk ▸ h⟩
  · simp

theorem holds_foldl_push (s : EdgeSet) (es : List Edge) (f : Edge) :
    (es.foldl push s).holds f = true ↔ s.holds f = true ∨ ∃ e ∈ es, f.key = e.key := by
  induction es generalizing s with
  | nil => simp
  | cons e es ih => simp only [List.foldl_cons, ih, holds_push, or_assoc, List.mem_cons, exists_eq_or_imp]

/-- Edges that are all there change nothing. -/
theorem foldl_push_of_holds {s : EdgeSet} {es : List Edge} (h : ∀ e ∈ es, s.holds e = true) : es.foldl push s = s := by
  induction es with
  | nil => rfl
  | cons e es ih =>
    rw [List.foldl_cons, push_of_holds (h e List.mem_cons_self)]
    exact ih fun f hf => h f (List.mem_cons_of_mem e hf)

end EdgeSet

/-- where a sequence ends -/
inductive Terminal where
  | dataAccess
  | deadEnd
  deriving DecidableEq, Repr

/-- the end that the last edge makes -/
def Terminal.of (edges : List Edge) : Terminal :=
  match edges.getLast? with
  | some e => if e.calleeRole = .dataAccess then .dataAccess else .deadEnd
  | none => .deadEnd

/-- an operation and the calls that it leads to -/
structure CallSequence where
  operation : Operation
  edges : List Edge
  terminal : Terminal
  deriving DecidableEq, Repr

namespace CallSequence

def ofEdges (operation : Operation) (s : EdgeSet) : CallSequence :=
  ⟨operation, s.edges, .of s.edges⟩

/-- the class calls or is called -/
def involves (s : CallSequence) (name : String) : Bool :=
  s.edges.any fun e => e.caller == name || e.callee == name

end CallSequence

end CodeSurvey
