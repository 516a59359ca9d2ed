/-
Argument files as the compiler reads them.

`arguments` reads a text by the rules of the compiler: separators end an argument, either quotation mark groups what
stands up to the next one of its kind, in quotes a backslash escapes the character behind it, and between arguments `#`
begins a remark. The reader is a fold of `read` over the characters, and `Writes` says that a text leads it from between
two arguments over some more to between two arguments, so what is written line by line is read line by line.

Main statement: `arguments_render`. Whatever stands in a path that is one line, its quoted form is one argument and the
argument is the path (`writes_quote`); the induction is over the characters of the path, and it carries that the reader
stays behind the opening mark.
-/
import CodeSurvey.Compile.Toolchain
import CodeSurvey.Proofs.Text.Cutting

namespace CodeSurvey.ArgumentFile

open Text

/-! ## Reading -/

/-- where the reader of an argument file stands -/
inductive Place where
  /-- between two arguments -/
  | between
  | remark
  /-- in an argument, outside quotes -/
  | bare (arg : List Char)
  /-- in an argument, behind the mark that opened quotes -/
  | quoted (mark : Char) (arg : List Char)
  /-- in quotes, right behind a backslash -/
  | escaped (mark : Char) (arg : List Char)
  deriving DecidableEq, Repr

/-- an argument file read up to some character -/
structure Reading where
  complete : List String
  place : Place
  deriving DecidableEq, Repr

def isLineEnd (c : Char) : Bool := c == '\n' || c == '\r'

def isSeparator (c : Char) : Bool := c == ' ' || c == '\t' || c == '\x0c' || isLineEnd c

def isMark (c : Char) : Bool := c == '"' || c == '\x27'

/-- what an escaped character stands for -/
def escapedChar (c : Char) : Char :=
  match c with
  | 'n' => '\n'
  | 'r' => '\r'
  | 't' => '\t'
  | 'f' => '\x0c'
  | c => c

namespace Reading

/-- the argument ends -/
def finish (r : Reading) (arg : List Char) : Reading := ⟨r.complete ++ [String.ofList arg], .between⟩

/-- the reading after a character of an argument outside quotes -/
def inArgument (r : Reading) (arg : List Char) (c : Char) : Reading :=
  { r with place := if isMark c then .quoted c arg else .bare (arg ++ [c]) }

/-- the reading after a character; a line end ends quotes that are still open -/
def read (r : Reading) (c : Char) : Reading :=
  match r.place with
  | .between =>
    if isSeparator c then r else if c == '#' then { r with place := .remark } else r.inArgument [] c
  | .remark => if isLineEnd c then { r with place := .between } else r
  | .bare arg => if isSeparator c then r.finish arg else r.inArgument arg c
  | .quoted mark arg =>
    if isLineEnd c then r.finish arg
    else { r with
      place := if c == mark then .bare arg else if c == '\\' then .escaped mark arg else .quoted mark (arg ++ [c]) }
  | .escaped mark arg => { r with place := .quoted mark (arg ++ [escapedChar c]) }

/-- the arguments of the whole text, where it ends here -/
def arguments (r : Reading) : List String :=
  match r.place with
  | .between | .remark => r.complete
  | .bare arg | .quoted _ arg | .escaped _ arg => r.complete ++ [String.ofList arg]

end Reading

/-- the arguments that a text writes -/
def arguments (text : String) : List String := (text.toList.foldl Reading.read ⟨[], .between⟩).arguments

/-! ## What texts write -/

/-- the text writes the arguments, whatever is read before and behind it -/
def Writes (text : List Char) (args : List String) : Prop :=
  ∀ complete, text.foldl Reading.read ⟨complete, .between⟩ = ⟨complete ++ args, .between⟩

theorem arguments_of_writes {text : String} {args : List String} (h : Writes text.toList args) :
    arguments text = args := by
  rw [arguments, h []]
  rfl

theorem writes_nil : Writes [] [] := fun complete => by rw [List.append_nil]; rfl

theorem Writes.append {text more : List Char} {args others : List String} (h : Writes text args)
    (h' : Writes more others) : Writes (text ++ more) (args ++ others) := by
  intro complete
  rw [List.foldl_append, h, h', List.append_assoc]

theorem writes_flatMap {α : Type} {xs : List α} {text : α → List Char} {arg : α → String}
    (h : ∀ x ∈ xs, Writes (text x) [arg x]) : Writes (xs.flatMap text) (xs.map arg) := by
  induction xs with
  | nil => exact writes_nil
  | cons x xs ih =>
    obtain ⟨hx, hothers⟩ := List.forall_mem_cons.1 h
    rw [List.flatMap_cons, List.map_cons]
    exact hx.append (ih hothers)

/-- a word without marks and blanks, and a separator -/
theorem writes_word (c : Char) (word : List Char) (sep : Char) (hc : c ≠ '#')
    (hword : ∀ x ∈ c :: word, isSeparator x = false ∧ isMark x = false) (hsep : isSeparator sep = true) :
    Writes (c :: word ++ [sep]) [String.ofList (c :: word)] := by
  have hbare : ∀ (rest : List Char), (∀ x ∈ rest, isSeparator x = false ∧ isMark x = false) → ∀ complete arg,
      rest.foldl Reading.read ⟨complete, .bare arg⟩ = ⟨complete, .bare (arg ++ rest)⟩ := by
    intro rest hrest complete arg
    induction rest generalizing arg with
    | nil => rw [List.append_nil]; rfl
    | cons x rest ih =>
      obtain ⟨⟨hx, hmark⟩, hothers⟩ := List.forall_mem_cons.1 hrest
      have hread : Reading.read ⟨complete, .bare arg⟩ x = ⟨complete, .bare (arg ++ [x])⟩ := by
        simp [Reading.read, Reading.inArgument, hx, hmark]
      rw [List.foldl_cons, hread, ih hothers, List.append_assoc, List.singleton_append]
  intro complete
  obtain ⟨⟨hfirst, hmark⟩, hothers⟩ := List.forall_mem_cons.1 hword
  have hread : Reading.read ⟨complete, .between⟩ c = ⟨complete, .bare [c]⟩ := by
    simp [Reading.read, Reading.inArgument, hfirst, hmark, hc]
  have hopened : (c :: word).foldl Reading.read ⟨complete, .between⟩ = ⟨complete, .bare (c :: word)⟩ := by
    rw [List.foldl_cons, hread, hbare word hothers, List.singleton_append]
  rw [List.foldl_append, hopened]
  simp [Reading.read, Reading.finish, hsep]

/-! ## Quoted texts -/

/-- a text without line ends -/
def OneLine (s : String) : Prop := ∀ c ∈ s.toList, isLineEnd c = false

instance (s : String) : Decidable (OneLine s) := inferInstanceAs (Decidable (∀ c ∈ s.toList, isLineEnd c = false))

/-- What a character is written as between quotes is read as the character. -/
theorem foldl_read_quoteChar {c : Char} (hc : isLineEnd c = false) (complete : List String) (arg : List Char) :
    (quoteChar c).foldl Reading.read ⟨complete, .quoted '"' arg⟩ = ⟨complete, .quoted '"' (arg ++ [c])⟩ := by
  by_cases hback : c = '\\'
  · subst hback
    rfl
  · by_cases hmark : c = '"'
    · subst hmark
      rfl
    · simp [quoteChar, Reading.read, hc, hback, hmark]

theorem foldl_read_quoted {cs : List Char} (hcs : ∀ c ∈ cs, isLineEnd c = false) (complete : List String)
    (arg : List Char) :
    (cs.flatMap quoteChar).foldl Reading.read ⟨complete, .quoted '"' arg⟩ = ⟨complete, .quoted '"' (arg ++ cs)⟩ := by
  induction cs generalizing arg with
  | nil => rw [List.append_nil]; rfl
  | cons c cs ih =>
    obtain ⟨hc, hothers⟩ := List.forall_mem_cons.1 hcs
    rw [List.flatMap_cons, List.foldl_append, foldl_read_quoteChar hc, ih hothers, List.append_assoc,
      List.singleton_append]

/-- **A quoted text is one argument**, and the argument is the text. -/
theorem writes_quote {s : String} (hs : OneLine s) : Writes ((quote s).toList ++ ['\n']) [s] := by
  intro complete
  have htext : (quote s).toList = '"' :: (s.toList.flatMap quoteChar ++ ['"']) := by
    simp [quote]
  have hopen : Reading.read ⟨complete, .between⟩ '"' = ⟨complete, .quoted '"' []⟩ := rfl
  rw [htext, List.cons_append, List.foldl_cons, hopen, List.foldl_append, List.foldl_append, foldl_read_quoted hs]
  show (⟨complete ++ [String.ofList s.toList], .between⟩ : Reading) = _
  rw [String.ofList_toList]

/-! ## The whole file -/

/-- the options for a class path: none where it is empty, else one argument that falls apart into it at colons -/
def IsClasspath (classpath : List FilePath) (options : List String) : Prop :=
  classpath = [] ∧ options = [] ∨
    ∃ joint, options = ["-cp", joint] ∧ split joint ':' = classpath.map FilePath.text

theorem toList_render (output : FilePath) (classpath sources : List FilePath) :
    (render output classpath sources).toList =
      (lines output classpath sources).flatMap fun line => line.toList ++ ['\n'] := by
  have hjoin : ∀ texts : List String, (String.join (texts.map (· ++ "\n"))).toList =
      texts.flatMap fun line => line.toList ++ ['\n'] := by
    intro texts
    induction texts with
    | nil => rfl
    | cons line texts ih =>
      rw [List.map_cons, String.join_cons, String.toList_append, String.toList_append, ih, List.flatMap_cons]
      rfl
  exact hjoin _

theorem toList_colon : ":".toList = [':'] := rfl

theorem oneLine_joined {texts : List String} (h : ∀ s ∈ texts, OneLine s) : OneLine (joined ":" texts) := by
  intro c hc
  rw [toList_joined toList_colon] at hc
  rcases mem_intercalate hc with hcolon | ⟨part, hpart, hc⟩
  · rw [List.mem_singleton.1 hcolon]
    rfl
  · obtain ⟨s, hs, rfl⟩ := List.mem_map.1 hpart
    exact h s hs c hc

theorem exists_classpath {classpath : List FilePath} (hlines : ∀ p ∈ classpath, OneLine p.text)
    (hcolon : ∀ p ∈ classpath, ':' ∉ p.text.toList) : ∃ options, IsClasspath classpath options ∧
      Writes ((if classpath.isEmpty then [] else ["-cp " ++ quote (joined ":" (classpath.map FilePath.text))]).flatMap
        fun line => line.toList ++ ['\n']) options := by
  by_cases hempty : classpath = []
  · subst hempty
    exact ⟨[], .inl ⟨rfl, rfl⟩, writes_nil⟩
  · have hone : OneLine (joined ":" (classpath.map FilePath.text)) := oneLine_joined (List.forall_mem_map.2 hlines)
    refine ⟨["-cp", joined ":" (classpath.map FilePath.text)], .inr ⟨_, rfl, ?_⟩, ?_⟩
    · exact split_joined toList_colon (by simpa using hempty) (List.forall_mem_map.2 hcolon)
    · rw [if_neg (by simpa using hempty), List.flatMap_singleton, String.toList_append, List.append_assoc]
      exact (writes_word '-' "cp".toList ' ' (by decide) (by decide) (by decide)).append (writes_quote hone)

/-- **The compiler reads the file as it was meant**: the options, the directory, the class path in one argument and each
source in its place. -/
theorem arguments_render {output : FilePath} {classpath sources : List FilePath} (houtput : OneLine output.text)
    (hclasspath : ∀ p ∈ classpath, OneLine p.text ∧ ':' ∉ p.text.toList) (hsources : ∀ p ∈ sources, OneLine p.text) :
    ∃ options, IsClasspath classpath options ∧ arguments (render output classpath sources) =
      ["-d", output.text, "-encoding", "UTF-8", "-nowarn"] ++ options ++ sources.map FilePath.text := by
  obtain ⟨options, hoptions, hwrites⟩ :=
    exists_classpath (fun p hp => (hclasspath p hp).1) fun p hp => (hclasspath p hp).2
  refine ⟨options, hoptions, arguments_of_writes ?_⟩
  have hdirectory : Writes (("-d " ++ quote output.text).toList ++ ['\n']) ["-d", output.text] := by
    rw [String.toList_append, List.append_assoc]
    exact (writes_word '-' ['d'] ' ' (by decide) (by decide) (by decide)).append (writes_quote houtput)
  have hencoding : Writes ("-encoding UTF-8".toList ++ ['\n']) ["-encoding", "UTF-8"] :=
    (writes_word '-' "encoding".toList ' ' (by decide) (by decide) (by decide)).append
      (writes_word 'U' "TF-8".toList '\n' (by decide) (by decide) (by decide))
  have hnowarn : Writes ("-nowarn".toList ++ ['\n']) ["-nowarn"] :=
    writes_word '-' "nowarn".toList '\n' (by decide) (by decide) (by decide)
  have hfiles : Writes ((sources.map fun p => quote p.text).flatMap fun line => line.toList ++ ['\n'])
      (sources.map FilePath.text) := by
    rw [List.flatMap_map]
    exact writes_flatMap fun p hp => writes_quote (hsources p hp)
  rw [toList_render, lines, List.flatMap_append, List.flatMap_append]
  exact ((hdirectory.append (hencoding.append hnowarn)).append hwrites).append hfiles

/-- libraries with a blank, a mark and a number sign in their names -/
def oddClasspath : List FilePath := [.ofText "/m2/a b.jar", .ofText "/m2/it\x27s #1.jar"]

/-- sources with marks, backslashes and a number sign in front -/
def oddSources : List FilePath := [.ofText "/src/My \"App\".java", .ofText "src\\new\\", .ofText "#x \\\" y"]

theorem arguments_render_oddNames :
    OneLine (FilePath.ofText "/tmp/out dir").text ∧ (∀ p ∈ oddClasspath, OneLine p.text ∧ ':' ∉ p.text.toList) ∧
    (∀ p ∈ oddSources, OneLine p.text) ∧
    arguments (render (.ofText "/tmp/out dir") oddClasspath oddSources) =
      ["-d", "/tmp/out dir", "-encoding", "UTF-8", "-nowarn", "-cp", "/m2/a b.jar:/m2/it\x27s #1.jar",
        "/src/My \"App\".java", "src\\new\\", "#x \\\" y"] := by
  have houtput : OneLine (FilePath.ofText "/tmp/out dir").text := by decide
  have hclasspath : ∀ p ∈ oddClasspath, OneLine p.text ∧ ':' ∉ p.text.toList := by decide
  have hsources : ∀ p ∈ oddSources, OneLine p.text := by decide
  obtain ⟨options, hoptions, hread⟩ := arguments_render houtput hclasspath hsources
  refine ⟨houtput, hclasspath, hsources, hread.trans ?_⟩
  rcases hoptions with ⟨hempty, -⟩ | ⟨joint, rfl, hsplit⟩
  · exact absurd hempty (List.cons_ne_nil _ _)
  · have hjoint : joint = "/m2/a b.jar:/m2/it\x27s #1.jar" := by
      rw [← joined_split toList_colon joint, hsplit]
      rfl
    rw [hjoint]
    rfl

end CodeSurvey.ArgumentFile
