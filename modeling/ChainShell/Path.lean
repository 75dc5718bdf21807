/-
This file reads and joins path texts without looking at any file.
-/

namespace ChainShell

/-- A path is kept as the text that was given. -/
structure Path where
  text : String
  deriving DecidableEq, Repr

/-- One step of a path. -/
inductive Component where
  | root
  | current
  | parent
  | normal (name : String)
  deriving DecidableEq, Repr

/-- The name of a component is its text inside a path. -/
def Component.name : Component → String
  | .root => "/"
  | .current => "."
  | .parent => ".."
  | .normal name => name

def Path.isAbsolute (path : Path) : Bool :=
  path.text.toList.head? == some '/'

def Path.isEmpty (path : Path) : Bool :=
  path.text.isEmpty

/-- An empty field and a single dot are no step. -/
def Component.ofField? (field : List Char) : Option Component :=
  if field = [] || field = ['.'] then none
  else if field = ['.', '.'] then some .parent
  else some (.normal (String.ofList field))

/-- Repeated and trailing slashes and inner dots vanish. A dot at the very start of a relative
path is a component of its own. -/
def Path.components (path : Path) : List Component :=
  match path.text.toList with
  | [] => []
  | '/' :: rest => .root :: (rest.splitOn '/').filterMap Component.ofField?
  | text =>
    match text.splitOn '/' with
    | ['.'] :: rest => .current :: rest.filterMap Component.ofField?
    | all => all.filterMap Component.ofField?

/-- The first step of a relative path is a component, whatever it is. Of the others only those
count that lead somewhere. -/
theorem Path.components_of_split {path : Path} {first : List Char} {rest : List (List Char)}
    (divided : path.text.toList.splitOn '/' = first :: rest) (relative : first ≠ []) :
    ∃ component : Component, path.components = component :: rest.filterMap Component.ofField? ∧
      component.name = String.ofList first := by
  unfold Path.components
  split
  · next blank =>
      rw [blank, List.splitOn_nil] at divided
      exact absurd (List.cons.inj divided).1.symm relative
  · next slashed =>
      rw [slashed, List.splitOn_cons_eq_if_modifyHead, if_pos (beq_self_eq_true _)] at divided
      exact absurd (List.cons.inj divided).1.symm relative
  · rw [divided]
    split
    · next dotted =>
        obtain ⟨rfl, rfl⟩ := List.cons.inj dotted
        exact ⟨.current, rfl, rfl⟩
    · next dotless =>
        have dotted : first ≠ ['.'] := fun dot => dotless rest (by rw [dot])
        by_cases parent : first = ['.', '.']
        · exact ⟨.parent, by simp [Component.ofField?, parent], by rw [parent]; rfl⟩
        · exact ⟨.normal (String.ofList first),
            by simp [Component.ofField?, parent, dotted, relative], rfl⟩

/-- A name without a slash is one component. -/
theorem Path.components_of_plain {name : String} (nonempty : name ≠ "")
    (plain : '/' ∉ name.toList) :
    ∃ component : Component, Path.components ⟨name⟩ = [component] ∧ component.name = name := by
  have undivided : (Path.mk name).text.toList.splitOn '/' = [name.toList] :=
    List.splitOn_eq_singleton plain
  obtain ⟨component, single, spelled⟩ :=
    Path.components_of_split undivided (by simpa using nonempty)
  exact ⟨component, single, spelled.trans String.ofList_toList⟩

/-- It is no absolute path either. -/
theorem Path.isAbsolute_of_plain {name : String} (plain : '/' ∉ name.toList) :
    Path.isAbsolute ⟨name⟩ = false := by
  rw [Path.isAbsolute, beq_eq_false_iff_ne]
  exact fun first => plain (List.mem_of_head? first)

theorem Path.isEmpty_of_isAbsolute {path : Path} (absolute : path.isAbsolute) :
    path.isEmpty = false := by
  rw [Path.isEmpty, Bool.eq_false_iff]
  intro blank
  simp_all [Path.isAbsolute]

/-- Two paths agree when their components agree. -/
def Path.agrees (left right : Path) : Bool :=
  left.components == right.components

/-- An absolute right side replaces the left one. Otherwise one slash stands between the two
unless the left side is empty or already ends in one. -/
def Path.join (left right : Path) : Path :=
  if right.isAbsolute then
    right
  else if left.isEmpty || left.text.toList.getLast? == some '/' then
    ⟨left.text ++ right.text⟩
  else
    ⟨left.text ++ "/" ++ right.text⟩

theorem Path.join_of_isAbsolute (left : Path) {right : Path} (absolute : right.isAbsolute) :
    left.join right = right := by
  rw [Path.join, if_pos absolute]

/-- Joining puts one slash between the two paths, or goes on behind the slash that is there. -/
theorem Path.toList_join {left right : Path} (nonempty : left.isEmpty = false)
    (relative : right.isAbsolute = false) :
    ∃ stem : List Char, (left.text.toList = stem ∨ left.text.toList = stem ++ ['/']) ∧
      (left.join right).text.toList = stem ++ '/' :: right.text.toList := by
  by_cases slashed : left.text.toList.getLast? = some '/'
  · obtain ⟨stem, divided⟩ := List.getLast?_eq_some_iff.mp slashed
    refine ⟨stem, .inr divided, ?_⟩
    simp [Path.join, relative, divided]
  · refine ⟨left.text.toList, .inl rfl, ?_⟩
    simp [Path.join, relative, slashed, nonempty]

/-- The left path stays in front of a relative one. -/
theorem Path.isPrefix_join {left right : Path} (relative : right.isAbsolute = false) :
    left.text.toList <+: (left.join right).text.toList := by
  rw [Path.join, relative, if_neg Bool.false_ne_true]
  split <;> simp

/-- It also decides where the joined path starts. -/
theorem Path.isAbsolute_join {left right : Path} (nonempty : left.isEmpty = false)
    (relative : right.isAbsolute = false) : (left.join right).isAbsolute = left.isAbsolute := by
  have start : left.text.toList <+: (left.join right).text.toList := Path.isPrefix_join relative
  obtain ⟨behind, spelled⟩ := start
  rw [Path.isAbsolute, Path.isAbsolute, ← spelled]
  cases given : left.text.toList with
  | nil => simp_all [Path.isEmpty]
  | cons char rest => rfl

theorem Path.isEmpty_join {left : Path} (nonempty : left.isEmpty = false) (right : Path) :
    (left.join right).isEmpty = false := by
  by_cases absolute : right.isAbsolute
  · rw [Path.join_of_isAbsolute left absolute]
    exact Path.isEmpty_of_isAbsolute absolute
  · have start : left.text.toList <+: (left.join right).text.toList :=
      Path.isPrefix_join (by simpa using absolute)
    rw [Path.isEmpty, Bool.eq_false_iff] at nonempty ⊢
    intro blank
    simp_all

/-- The root directory is the only directory with this path. -/
def Path.root : Path := ⟨"/"⟩

/-- A search path is a list of directories that colons separate. -/
def searchEntries (searchPath : String) : List Path :=
  (searchPath.toList.splitOn ':').map fun field => ⟨String.ofList field⟩

end ChainShell
