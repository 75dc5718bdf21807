/-
This file compares looking a file up with listing its directory. What a path finds in a directory is
also among the names of the directory, and a machine whose directories can be read shows it.
-/

import ChainShell.Machine.System

namespace ChainShell

variable {σ : Type} [OperatingSystem σ]

/-- A directory with a regular file in it can be read, and the file is among its names. -/
def ListsFiles (system : σ) : Prop :=
  ∀ directory : Path, directory.isEmpty = false → ∀ name : String, name ≠ "" →
    '/' ∉ name.toList → ∀ file, OperatingSystem.metadata system (directory.join ⟨name⟩) = .ok file →
    file.isRegular → ∃ names : List String,
      OperatingSystem.listDir system directory = .ok (names.map .ok) ∧ name ∈ names

/-- The path names the directory of the shell's own process. What can be read from there can also
be read without naming the directory. -/
structure ReadsFrom (system : σ) (directory : Path) : Prop where
  nonempty : directory.isEmpty = false
  relative : ∀ path : Path, path.isEmpty = false → ∀ entries,
    OperatingSystem.listDir system (directory.join path) = .ok entries →
    OperatingSystem.listDir system path = .ok entries

theorem pathNames_divided {text : String} {left right : List Char}
    (divided : text.toList = left ++ '/' :: right) :
    pathNames text = pathNames (String.ofList left) ++ pathNames (String.ofList right) := by
  simp [pathNames, divided, List.splitOn_append_cons_self]

theorem pathNames_of_plain {name : String} (named : name ≠ "") (plain : '/' ∉ name.toList) :
    pathNames name = [name] := by
  simp [pathNames, List.splitOn_eq_singleton plain, named]

/-- The last name of a path is walked to behind all others. -/
theorem walkNames_join {directory : Path} (nonempty : directory.isEmpty = false) {name : String}
    (named : name ≠ "") (plain : '/' ∉ name.toList) :
    walkNames (directory.join ⟨name⟩).text = pathNames directory.text ++ [name] := by
  obtain ⟨stem, divided, joined⟩ :=
    Path.toList_join nonempty (Path.isAbsolute_of_plain plain)
  have names : pathNames (directory.join ⟨name⟩).text = pathNames directory.text ++ [name] := by
    rw [pathNames_divided joined, String.ofList_toList, pathNames_of_plain named plain]
    apply congrArg (· ++ [name])
    obtain whole | slashed := divided
    · rw [← whole, String.ofList_toList]
    · exact (List.append_nil _).symm.trans (pathNames_divided slashed).symm
  have ends : endsInSlash (directory.join ⟨name⟩).text = false := by
    rw [endsInSlash, joined]
    apply decide_eq_false
    intro slash
    have given : name.toList ≠ [] := by simpa using named
    rw [List.getLast?_append, List.getLast?_cons_of_ne_nil given,
      List.getLast?_eq_some_getLast given] at slash
    exact plain (Option.some.inj slash ▸ List.getLast_mem given)
  rw [walkNames, ends, if_neg Bool.false_ne_true, names]

/-- More names make a walk go on from the node that it has found. A walk that has found none comes
to an end. -/
def FileTree.GoesOn (tree : FileTree) (walk : List String → Except OsError Place) :
    Except OsError Place → Prop
  | .ok (.found middle) => ∃ left, ∀ more, walk more = tree.walk true left middle more
  | _ => ∀ name rest, ∃ cause, walk (name :: rest) = .error cause

theorem FileTree.walk_append (tree : FileTree) (links : Nat) (located : Located)
    (names : List String) :
    tree.GoesOn (fun more => tree.walk true links located (names ++ more))
      (tree.walk true links located names) := by
  fun_induction FileTree.walk tree true links located names with
  | case1 links located => exact ⟨links, fun _ => rfl⟩
  | case2 | case4 | case5 | case12 => simp [FileTree.walk, *]
  | case3 | case6 | case7 | case8 | case10 | case13 =>
      intro more others
      simp [FileTree.walk, *]
  | case9 => simp_all
  | case11 =>
      next start inductionHypothesis =>
      simpa [FileTree.walk, start, *] using inductionHypothesis

/-- A walk to the end of some names passes the end of the first of them. -/
theorem FileTree.exists_middle {tree : FileTree} {links : Nat} {located : Located}
    {names rest : List String} {name : String} {place : Place}
    (walked : tree.walk true links located (names ++ name :: rest) = .ok place) :
    ∃ left middle, tree.walk true links located names = .ok (.found middle) ∧
      tree.walk true left middle (name :: rest) = .ok place := by
  have onward := tree.walk_append links located names
  cases halfway : tree.walk true links located names with
  | error cause =>
      rw [halfway] at onward
      obtain ⟨stuck, ends⟩ := onward name rest
      exact absurd (ends.symm.trans walked) (by simp)
  | ok reached =>
      rw [halfway] at onward
      cases reached with
      | vacant holder missing =>
          obtain ⟨stuck, ends⟩ := onward name rest
          exact absurd (ends.symm.trans walked) (by simp)
      | found middle =>
          obtain ⟨left, goesOn⟩ := onward
          exact ⟨left, middle, rfl, (goesOn (name :: rest)).symm.trans walked⟩

/-- A slash behind a path asks for a directory and leads no further. -/
theorem FileTree.walk_walkNames {tree : FileTree} {links : Nat} {located middle : Located}
    {text : String} (walked : tree.walk true links located (pathNames text) = .ok (.found middle))
    (directory : tree.isDirectory middle.id) :
    tree.walk true links located (walkNames text) = .ok (.found middle) := by
  have onward := tree.walk_append links located (pathNames text)
  rw [walked] at onward
  obtain ⟨left, goesOn⟩ := onward
  rw [walkNames]
  split
  · have stays : tree.walk true left middle [""] = .ok (.found middle) := by
      rw [FileTree.walk]
      rw [FileTree.isDirectory] at directory
      split at directory
      · simp [FileTree.walk]
      · contradiction
    exact (goesOn [""]).trans stays
  · exact walked

/-- The names in a directory. Any other node has none. -/
def FileTree.namesIn (tree : FileTree) (id : NodeId) : List String :=
  match tree.node? id with
  | some (.directory _ _ entries) => entries.map Prod.fst
  | _ => []

/-- Every directory can be read, and its parent is a directory. -/
def FileTree.isReadable (tree : FileTree) : Bool :=
  tree.nodes.all fun
    | .directory access parent _ => access.allows .read && tree.isDirectory parent
    | _ => true

theorem FileTree.directory_of_isReadable {tree : FileTree} (readable : tree.isReadable)
    {id : NodeId} {access : Access} {parent : NodeId} {entries : List (String × NodeId)}
    (node : tree.node? id = some (.directory access parent entries)) :
    tree.allows id .read ∧ tree.isDirectory parent := by
  have all := Array.all_eq_true_iff_forall_mem.mp readable _ (Array.mem_of_getElem? node)
  simpa [FileTree.allows, node, Node.access] using all

theorem FileTree.resolve_eq_ok {tree : FileTree} {directory id : NodeId} {path : Path} :
    tree.resolve directory path = .ok id ↔ pathFault? path = none ∧
      ∃ located, tree.walk true maxLinks (FileTree.start directory path) (walkNames path.text) =
        .ok (.found located) ∧ located.id = id := by
  unfold FileTree.resolve FileTree.locate FileTree.place
  cases pathFault? path with
  | some cause => simp [Except.bind, Except.map]
  | none =>
      cases tree.walk true maxLinks (FileTree.start directory path) (walkNames path.text) with
      | error cause => simp [Except.bind, Except.map]
      | ok place => cases place <;> simp [Except.bind, Except.map, Place.located]

/-- The node that a name leads to in a directory, when the name is neither a dot nor a link. -/
def FileTree.enter? (tree : FileTree) (id : NodeId) (name : String) : Option NodeId :=
  match tree.node? id with
  | some (.directory access _ entries) =>
    if name ∈ ["", ".", ".."] ∨ !access.allows .execute ∨ maxNameBytes < name.utf8ByteSize then
      none
    else
      match entries.lookup name with
      | none => none
      | some child =>
        match tree.node? child with
        | some (.link _) => none
        | _ => some child
  | _ => none

theorem FileTree.walk_enter {tree : FileTree} {links : Nat} {located : Located} {name : String}
    {child : NodeId} (entered : tree.enter? located.id name = some child) (rest : List String) :
    tree.walk true links located (name :: rest) =
      tree.walk true links ⟨child, located.id, name⟩ rest := by
  rw [FileTree.enter?] at entered
  split at entered
  · next access parent entries holder =>
      split at entered
      · contradiction
      · next plain =>
          rw [not_or, not_or] at plain
          obtain ⟨named, passes, short⟩ := plain
          split at entered
          · contradiction
          · next found entry =>
              split at entered
              · contradiction
              · next noLink =>
                  obtain rfl := Option.some.inj entered
                  simp only [List.mem_cons, List.not_mem_nil, or_false, not_or] at named
                  rw [FileTree.walk]
                  simp only [holder, named, passes, short, entry, if_false]
                  cases reached : tree.node? found with
                  | none => rfl
                  | some node =>
                      cases node with
                      | link target => exact (noLink target reached).elim
                      | directory | file | device => rfl
  · contradiction

/-- A walk enters one directory after the other. -/
theorem FileTree.walk_entries {tree : FileTree} {links : Nat} {located : Located}
    {names : List String} {id : NodeId} (entered : names.foldlM tree.enter? located.id = some id) :
    ∃ last, tree.walk true links located names = .ok (.found last) ∧ last.id = id := by
  induction names generalizing located with
  | nil => exact ⟨located, by rw [FileTree.walk], Option.some.inj entered⟩
  | cons name rest inductionHypothesis =>
      rw [List.foldlM_cons] at entered
      obtain ⟨child, first, later⟩ := Option.bind_eq_some_iff.mp entered
      rw [FileTree.walk_enter first]
      exact inductionHypothesis later

theorem FileTree.resolve_entries {tree : FileTree} {directory id : NodeId} {path : Path}
    (sound : pathFault? path = none)
    (entered : (walkNames path.text).foldlM tree.enter? (FileTree.start directory path).id =
      some id) :
    tree.resolve directory path = .ok id :=
  FileTree.resolve_eq_ok.mpr ⟨sound, FileTree.walk_entries entered⟩

/-- A regular file is reached through an entry, because dots lead to directories. -/
theorem FileTree.entry_of_isReadable {tree : FileTree} (readable : tree.isReadable) {links : Nat}
    {middle located : Located} {name : String} (named : name ≠ "")
    (found : tree.walk true links middle [name] = .ok (.found located)) {node : Node}
    (reached : tree.node? located.id = some node) (regular : node.isRegular) :
    tree.isDirectory middle.id ∧ tree.allows middle.id .read ∧
      name ∈ tree.namesIn middle.id := by
  have file : tree.isDirectory located.id = false := by
    cases node <;> simp_all [FileTree.isDirectory, Node.isRegular]
  rw [FileTree.walk] at found
  split at found
  · next access parent entries holder =>
      have middleHolds : tree.isDirectory middle.id := by simp [FileTree.isDirectory, holder]
      obtain ⟨allowed, parentHolds⟩ := FileTree.directory_of_isReadable readable holder
      refine ⟨middleHolds, allowed, ?_⟩
      rw [if_neg named] at found
      split at found
      · contradiction
      · by_cases dot : name = "."
        · rw [if_pos dot, FileTree.walk] at found
          simp_all
        · by_cases dots : name = ".."
          · rw [if_neg dot, if_pos dots, FileTree.walk] at found
            obtain rfl := Place.found.inj (Except.ok.inj found)
            simp_all
          · rw [if_neg dot, if_neg dots] at found
            split at found
            · contradiction
            · cases entry : entries.lookup name with
              | none => simp [entry] at found
              | some child =>
                  obtain ⟨earlier, later, rfl, -⟩ := List.lookup_eq_some_iff.mp entry
                  simp [FileTree.namesIn, holder]
  · contradiction

/-- A part of a path without faults has none. -/
theorem pathFault?_of_within {part whole : Path} (nonempty : part.isEmpty = false)
    (within : part.text.toList <:+: whole.text.toList) (sound : pathFault? whole = none) :
    pathFault? part = none := by
  obtain ⟨before, behind, spelled⟩ := within
  have text : whole.text = String.ofList before ++ part.text ++ String.ofList behind := by
    apply String.toList_inj.mp
    simp [← spelled]
  have size := congrArg String.utf8ByteSize text
  rw [String.utf8ByteSize_append, String.utf8ByteSize_append] at size
  unfold pathFault? at sound ⊢
  split at sound
  · contradiction
  · next clean =>
      have partClean : ¬ part.text.toList.contains '\x00' := by
        intro zero
        apply clean
        rw [← spelled]
        simp_all
      rw [if_neg partClean, nonempty, if_neg Bool.false_ne_true]
      split at sound
      · contradiction
      · split at sound
        · contradiction
        · next short => rw [if_neg (by omega)]

/-- The directory of a regular file is found on the way to the file. -/
theorem FileTree.resolve_directory {tree : FileTree} (readable : tree.isReadable)
    {current id : NodeId} {directory : Path} (nonempty : directory.isEmpty = false) {name : String}
    (named : name ≠ "") (plain : '/' ∉ name.toList)
    (resolved : tree.resolve current (directory.join ⟨name⟩) = .ok id) {node : Node}
    (reached : tree.node? id = some node) (regular : node.isRegular) :
    ∃ holder, tree.resolve current directory = .ok holder ∧ tree.isDirectory holder ∧
      tree.allows holder .read ∧ name ∈ tree.namesIn holder := by
  have relative := Path.isAbsolute_of_plain plain
  obtain ⟨sound, located, walked, rfl⟩ := FileTree.resolve_eq_ok.mp resolved
  have start : FileTree.start current (directory.join ⟨name⟩) =
      FileTree.start current directory := by
    rw [FileTree.start, FileTree.start, Path.isAbsolute_join nonempty relative]
  rw [walkNames_join nonempty named plain, start] at walked
  obtain ⟨left, middle, halfway, step⟩ := FileTree.exists_middle walked
  obtain ⟨isDirectory, allowed, member⟩ :=
    FileTree.entry_of_isReadable readable named step reached regular
  have faultless : pathFault? directory = none :=
    pathFault?_of_within nonempty (Path.isPrefix_join relative).isInfix sound
  have found := FileTree.walk_walkNames halfway isDirectory
  exact ⟨middle.id, FileTree.resolve_eq_ok.mpr ⟨faultless, middle, found, rfl⟩, isDirectory,
    allowed, member⟩

theorem Machine.metadata_eq_ok {machine : Machine} {path : Path} {file : FileMetadata} :
    machine.metadata path = .ok file ↔ ∃ id node, machine.resolve path = .ok id ∧
      machine.tree.node? id = some node ∧ ⟨node.isRegular, .ofNat node.access.mode⟩ = file := by
  rw [Machine.metadata]
  cases machine.resolve path with
  | error cause => simp
  | ok id => cases reached : machine.tree.node? id <;> simp [reached]

/-- Every user may run the shell of the standard machine. -/
theorem Machine.metadata_standard_sh :
    OperatingSystem.metadata (Machine.standard []) ⟨"/usr/bin/sh"⟩ = .ok ⟨true, 0o755⟩ := by
  have resolved : (Machine.standard []).resolve ⟨"/usr/bin/sh"⟩ = .ok 17 :=
    FileTree.resolve_entries (by decide +kernel) (by decide +kernel)
  exact Machine.metadata_eq_ok.mpr
    ⟨17, .file ⟨0o755, true⟩ (.tool .sh), resolved, by decide +kernel, rfl⟩

theorem Machine.listDir_directory {machine : Machine} {path : Path} {id : NodeId}
    (resolved : machine.resolve path = .ok id) (directory : machine.tree.isDirectory id)
    (readable : machine.tree.allows id .read) :
    machine.listDir path = .ok ((machine.tree.namesIn id).map .ok) := by
  rw [FileTree.isDirectory] at directory
  rw [Machine.listDir, resolved]
  split at directory
  · next node => simp_all [FileTree.allows, Node.access, FileTree.namesIn]
  · contradiction

theorem Machine.listDir_file {machine : Machine} {path : Path} {id : NodeId}
    (resolved : machine.resolve path = .ok id) (file : machine.tree.isDirectory id = false) :
    machine.listDir path = .error .notDirectory := by
  rw [FileTree.isDirectory] at file
  rw [Machine.listDir, resolved]
  split at file
  · contradiction
  · simp_all

/-- A machine whose directories can be read lists every regular file that it finds. -/
theorem Machine.listsFiles {machine : Machine} (readable : machine.tree.isReadable) :
    ListsFiles machine := by
  intro directory nonempty name named plain file found regular
  obtain ⟨id, node, resolved, reached, rfl⟩ := Machine.metadata_eq_ok.mp found
  obtain ⟨holder, directoryFound, isDirectory, allowed, member⟩ :=
    FileTree.resolve_directory readable nonempty named plain resolved reached regular
  exact ⟨machine.tree.namesIn holder,
    Machine.listDir_directory directoryFound isDirectory allowed, member⟩

/-- A leading slash is not among the names to walk. -/
theorem walkNames_slash {text : String} (given : text ≠ "") :
    walkNames ("/" ++ text) = walkNames text := by
  have chars : text.toList ≠ [] := by simpa using given
  have names : pathNames ("/" ++ text) = pathNames text := by
    have divided : ("/" ++ text).toList = [] ++ '/' :: text.toList := by simp
    rw [pathNames_divided divided, String.ofList_toList]
    rfl
  have ends : endsInSlash ("/" ++ text) = endsInSlash text := by
    simp [endsInSlash, List.getLast?_cons_of_ne_nil chars]
  rw [walkNames, walkNames, names, ends]

theorem Machine.resolve_of_root {machine : Machine} (atRoot : machine.directory = FileTree.rootId)
    {path : Path} (nonempty : path.isEmpty = false) {id : NodeId}
    (resolved : machine.resolve (Path.root.join path) = .ok id) :
    machine.resolve path = .ok id := by
  by_cases absolute : path.isAbsolute
  · rwa [Path.join_of_isAbsolute _ absolute] at resolved
  · have joined : Path.root.join path = ⟨"/" ++ path.text⟩ := by
      simp [Path.join, Path.root, absolute]
    rw [joined] at resolved
    obtain ⟨sound, located, walked, rfl⟩ := FileTree.resolve_eq_ok.mp resolved
    have start : FileTree.start machine.directory path =
        FileTree.start machine.directory ⟨"/" ++ path.text⟩ := by
      simp [FileTree.start, atRoot]
    have given : path.text ≠ "" := by simpa [Path.isEmpty] using nonempty
    apply FileTree.resolve_eq_ok.mpr
    refine ⟨pathFault?_of_within nonempty ⟨['/'], [], by simp⟩ sound, located, ?_, rfl⟩
    rw [start, ← walkNames_slash given]
    exact walked

/-- At the root directory, a path can be read with and without a slash in front. -/
theorem Machine.readsFrom_root {machine : Machine} (atRoot : machine.directory = FileTree.rootId) :
    ReadsFrom machine .root := by
  refine ⟨rfl, fun path nonempty entries listed => ?_⟩
  change machine.listDir (Path.root.join path) = _ at listed
  change machine.listDir path = _
  unfold Machine.listDir at listed ⊢
  cases resolved : machine.resolve (Path.root.join path) with
  | error cause =>
      rw [resolved] at listed
      contradiction
  | ok id =>
      rw [resolved] at listed
      rw [Machine.resolve_of_root atRoot nonempty resolved]
      exact listed

end ChainShell
