/-
This file compares completion with the search for a command. The two read the search path in
different ways, and yet completion offers every name that the search can find.
-/

import ChainShell.Proofs.Completion.Collection
import ChainShell.Proofs.Completion.Matching
import ChainShell.Proofs.Machine.Listing
import ChainShell.Proofs.Path.Resolution

namespace ChainShell

open OperatingSystem

section Coverage

variable {σ : Type} [OperatingSystem σ] {system : σ}

/-- A name that the search finds lies in the directory of some entry of the search path. -/
theorem exists_entry_of_found {searchPath : String} {directory : Path} {name : String}
    (plain : '/' ∉ name.toList)
    (found : (findCommand system searchPath directory ⟨name⟩).isSome) :
    name ≠ "" ∧ ∃ entry ∈ searchEntries searchPath, ∃ file,
      metadata system ((entryDirectory directory entry).join ⟨name⟩) = .ok file ∧
        file.isRegular := by
  have named : name ≠ "" := by
    rintro rfl
    rw [findCommand_blank] at found
    contradiction
  refine ⟨named, ?_⟩
  rw [findCommand_of_plain system searchPath directory named plain, findInSearchPath,
    List.findSome?_isSome_iff] at found
  obtain ⟨entry, member, fits⟩ := found
  refine ⟨entry, member, ?_⟩
  rw [matchesEntry] at fits
  split at fits
  · next both =>
      obtain ⟨file, answered, regular, -⟩ := isProgram_iff.mp both
      exact ⟨file, answered, regular⟩
  · contradiction

/-- The commands have the names of every entry except the empty one, and the files make up for
that. -/
theorem mem_build_of_found {directory : Path} (reads : ReadsFrom system directory)
    (lists : ListsFiles system) {searchPath : String}
    (room : (listedNames (listNames system) searchPath).length ≤ maxIndexedCommands)
    {name : String} (plain : '/' ∉ name.toList)
    (found : (findCommand system searchPath directory ⟨name⟩).isSome) :
    name ∈ (NameIndex.build system searchPath directory).1.commands ∨
      name ∈ (NameIndex.build system searchPath directory).1.files := by
  obtain ⟨named, entry, member, file, answered, regular⟩ := exists_entry_of_found plain found
  have given := entryDirectory_isEmpty reads.nonempty entry
  obtain ⟨names, listed, present⟩ := lists _ given name named plain file answered regular
  cases blank : entry.isEmpty with
  | true =>
      right
      rw [entryDirectory, blank, if_pos rfl] at listed
      change name ∈ (fileNames system directory).1
      rw [fileNames, listNames_of_listDir listed]
      exact present
  | false =>
      left
      rw [entryDirectory, blank, if_neg Bool.false_ne_true] at listed
      have direct := listNames_of_listDir (reads.relative entry blank _ listed)
      exact mem_collectCommands room member blank direct present

/-- Completion misses no command. What the search finds under a name without a slash is among the
indexed names, and every start of the name in which nothing separates words is completed to it. -/
theorem complete_covers_findCommand {directory : Path} (reads : ReadsFrom system directory)
    (lists : ListsFiles system) (searchPath : String)
    (room : (listedNames (listNames system) searchPath).length ≤ maxIndexedCommands)
    (name : String) (plain : '/' ∉ name.toList)
    (found : (findCommand system searchPath directory ⟨name⟩).isSome) :
    let index := (NameIndex.build system searchPath directory).1
    (name ∈ index.commands ∨ name ∈ index.files) ∧
      ∀ word : String, word ≠ "" → word.toList <+: name.toList →
        (∀ char ∈ word.toList, ¬ SeparatesWords char) → name ∈ complete word index := by
  intro index
  have indexed : name ∈ index.commands ∨ name ∈ index.files :=
    mem_build_of_found reads lists room plain found
  refine ⟨indexed, ?_⟩
  intro word nonempty start unbroken
  rw [complete_word nonempty unbroken]
  apply List.mem_filter.mpr
  exact ⟨List.mem_append.mpr indexed, List.isPrefixOf_iff_prefix.mpr start⟩

end Coverage

/-- The search path has an empty entry, a relative one that is repeated, and one that leads to a
file. -/
theorem complete_covers_findCommand_sh :
    let system := Machine.standard []
    let searchPath := ":usr/bin:usr/bin/sh:usr/bin"
    ReadsFrom system .root ∧ ListsFiles system ∧
      (listedNames (listNames system) searchPath).length ≤ maxIndexedCommands ∧
      '/' ∉ "sh".toList ∧ (findCommand system searchPath .root ⟨"sh"⟩).isSome ∧
      "sh" ∈ complete "s" (NameIndex.build system searchPath .root).1 := by
  intro system searchPath
  have reads : ReadsFrom system .root := Machine.readsFrom_root rfl
  have lists : ListsFiles system := Machine.listsFiles (by decide +kernel)
  have entries : searchEntries searchPath =
      [⟨""⟩, ⟨"usr/bin"⟩, ⟨"usr/bin/sh"⟩, ⟨"usr/bin"⟩] := by decide +kernel
  have directory : listDir system ⟨"usr/bin"⟩ = .ok ((system.tree.namesIn 2).map .ok) := by
    have resolved : system.resolve ⟨"usr/bin"⟩ = .ok 2 :=
      FileTree.resolve_entries (by decide +kernel) (by decide +kernel)
    exact Machine.listDir_directory resolved (by decide +kernel) (by decide +kernel)
  have file : listDir system ⟨"usr/bin/sh"⟩ = .error .notDirectory := by
    have resolved : system.resolve ⟨"usr/bin/sh"⟩ = .ok 17 :=
      FileTree.resolve_entries (by decide +kernel) (by decide +kernel)
    exact Machine.listDir_file resolved (by decide +kernel)
  have room : (listedNames (listNames system) searchPath).length ≤ maxIndexedCommands := by
    have programs := entryListing_of_ok (by decide +kernel) (listNames_of_listDir directory)
    have nothing : entryListing (listNames system) ⟨"usr/bin/sh"⟩ = [] := by
      simp [entryListing, listNames, file, Except.toOption]
    have blank : entryListing (listNames system) ⟨""⟩ = [] := rfl
    have count : (system.tree.namesIn 2).length = 11 := by decide +kernel
    simp [listedNames, entries, programs, nothing, blank, count, maxIndexedCommands]
  have found : (findCommand system searchPath .root ⟨"sh"⟩).isSome := by
    rw [findCommand_of_plain _ _ _ (by decide) (by decide), findInSearchPath,
      List.findSome?_isSome_iff]
    refine ⟨⟨"usr/bin"⟩, by decide +kernel, ?_⟩
    have program : IsProgram system ⟨"/usr/bin/sh"⟩ :=
      ⟨_, Machine.metadata_standard_sh, rfl, 0, by simp, rfl⟩
    have place : offeredPath .root "sh" "usr/bin" = ⟨"/usr/bin/sh"⟩ := by decide +kernel
    exact Option.isSome_iff_exists.mpr
      ⟨_, matchesEntry_eq_some.mpr ⟨by rw [place]; exact program, place⟩⟩
  have unbroken : ∀ char ∈ "s".toList, ¬ SeparatesWords char := by
    intro char member
    obtain rfl : char = 's' := List.mem_singleton.mp member
    decide
  have covers := complete_covers_findCommand reads lists searchPath room "sh" (by decide) found
  exact ⟨reads, lists, room, by decide, found, covers.2 "s" (by decide) (by decide) unbroken⟩

end ChainShell
