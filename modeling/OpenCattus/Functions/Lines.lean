import OpenCattus.Foundations.Lines
import OpenCattus.Functions.Files

/-!
# Blocks of lines

`addStringToFile` looks for a text anywhere in a file and appends it at the end; its callers hand
over complete lines. `addStringToFile_lines` says when the call is one about lines: the block is
found as lines, or the file ends with a line end.
-/

namespace OpenCattus

open Foundations Foundations.Text Program

/-- A block of complete lines. -/
structure CompleteLines (block : String) : Prop where
  ne_empty : block ≠ ""
  ended : Ended block.toList

/-- Where the block is found, its lines are lines of the file; where it is appended, no line of
the file is open. -/
structure Appendable (content block : String) : Prop where
  found : block.toList <:+: content.toList → linesOf block.toList <:+: linesOf content.toList
  appended : ¬ block.toList <:+: content.toList → Ended content.toList

/-- The block is glued to an open line, but the file already ends with the lines that the block
begins with, so that the result happens to have the lines of both. -/
def Coincides (content block : String) : Prop :=
  ¬ block.toList <:+: content.toList ∧ ¬ Ended content.toList ∧
    ∃ first rest, block.toList = first ++ '\n' :: rest ∧ '\n' ∉ first ∧
      (first = [] ∨ openLine content.toList ∈ linesOf rest) ∧
      first :: linesOf rest <:+: linesOf (endedPart content.toList) ++
        (openLine content.toList ++ first) :: linesOf rest

/-- What a call is meant to do, from the file system `fs` to `fs'`. -/
structure LineOperation (opts : FileOptions) (filename : Path) (block : String)
    (fs fs' : FileSystem) : Prop where
  /-- The block stands in the file, on lines of its own. -/
  present : linesOf block.toList <:+: linesOf (fs'.readFile filename).toList
  /-- The lines of the file are still there, in the same order. -/
  kept : List.Sublist (linesOf (fs.readFile filename).toList)
    (linesOf (fs'.readFile filename).toList)
  again : addStringToFile opts filename block fs' = (.ok (), fs')

/-- The same for some blocks. -/
structure LineOperations (opts : FileOptions) (filename : Path) (blocks : List String)
    (fs fs' : FileSystem) : Prop where
  present : ∀ block ∈ blocks, linesOf block.toList <:+: linesOf (fs'.readFile filename).toList
  kept : List.Sublist (linesOf (fs.readFile filename).toList)
    (linesOf (fs'.readFile filename).toList)
  again : ∀ block ∈ blocks, addStringToFile opts filename block fs' = (.ok (), fs')

/-! ## What a call does -/

variable {opts : FileOptions} {filename : Path} {fs fs' : FileSystem} {block : String}

theorem addStringToFile_of_contained (h : block.toList <:+: (fs.readFile filename).toList) :
    addStringToFile opts filename block fs = (.ok (), fs) := by
  unfold addStringToFile
  rw [run_read_bind]
  exact congrFun (if_pos (isSome_findText_iff.mpr h)) fs

theorem readFile_of_writeFile {content : String} (h : fs.writeFile filename content = .ok fs') :
    fs'.readFile filename = content := by
  rw [FileSystem.readFile, FileSystem.lookup_writeFile h, if_pos rfl]

/-- A block that is not found comes last. -/
theorem readFile_addStringToFile (hopts : opts.dryRun = false)
    (h : ¬ block.toList <:+: (fs.readFile filename).toList)
    (hreturns : Returns (addStringToFile opts filename block) fs () fs') :
    fs'.readFile filename = fs.readFile filename ++ block := by
  unfold addStringToFile Returns at hreturns
  rw [run_read_bind, if_neg fun hfound => h (isSome_findText_iff.mp hfound), run_update_bind,
    if_neg (by simp [hopts])] at hreturns
  unfold revise at hreturns
  split at hreturns
  · rename_i written hwritten
    obtain ⟨-, rfl⟩ := Prod.mk.inj hreturns
    dsimp only at hwritten
    split at hwritten
    · generalize (fs.openAppend filename).toOption.getD fs = opened at hwritten
      cases hwrite : opened.writeFile filename (fs.readFile filename ++ block) with
      | ok next =>
        rw [hwrite] at hwritten
        obtain rfl := Except.ok.inj hwritten
        exact readFile_of_writeFile hwrite
      | error code =>
        rw [hwrite] at hwritten
        cases hwritten
    · cases hwritten
  · cases hreturns

theorem contained_append (content block : String) : block.toList <:+: (content ++ block).toList := by
  rw [String.toList_append]
  exact (List.suffix_append _ _).isInfix

/-- A second call finds what the first one has left. -/
theorem addStringToFile_again (hopts : opts.dryRun = false)
    (hreturns : Returns (addStringToFile opts filename block) fs () fs') :
    addStringToFile opts filename block fs' = (.ok (), fs') := by
  by_cases hfound : block.toList <:+: (fs.readFile filename).toList
  · have hsame : addStringToFile opts filename block fs = (.ok (), fs) :=
      addStringToFile_of_contained hfound
    obtain rfl := (Returns.unique hreturns hsame).2
    exact hsame
  · refine addStringToFile_of_contained ?_
    rw [readFile_addStringToFile hopts hfound hreturns]
    exact contained_append _ _

/-! ## One call -/

theorem lineOperation_of_found (hopts : opts.dryRun = false)
    (hfound : block.toList <:+: (fs.readFile filename).toList)
    (hreturns : Returns (addStringToFile opts filename block) fs () fs') :
    LineOperation opts filename block fs fs' ↔
      linesOf block.toList <:+: linesOf (fs.readFile filename).toList := by
  have hsame : fs' = fs :=
    ((Returns.unique hreturns (addStringToFile_of_contained hfound)).2)
  constructor
  · intro h
    have hpresent := h.present
    rwa [hsame] at hpresent
  · intro h
    exact ⟨by rwa [hsame], by rw [hsame], addStringToFile_again hopts hreturns⟩

/-- Behind a line end the lines of the block follow the lines of the file. -/
theorem linesOf_appended {content : String} (h : Ended content.toList) (block : String) :
    linesOf (content ++ block).toList = linesOf content.toList ++ linesOf block.toList := by
  rw [String.toList_append, linesOf_append h]

theorem lineOperation_of_ended (hopts : opts.dryRun = false)
    (hfound : ¬ block.toList <:+: (fs.readFile filename).toList)
    (hended : Ended (fs.readFile filename).toList)
    (hreturns : Returns (addStringToFile opts filename block) fs () fs') :
    LineOperation opts filename block fs fs' := by
  have hlines : linesOf (fs'.readFile filename).toList =
      linesOf (fs.readFile filename).toList ++ linesOf block.toList := by
    rw [readFile_addStringToFile hopts hfound hreturns, linesOf_appended hended]
  refine ⟨?_, ?_, addStringToFile_again hopts hreturns⟩
  · rw [hlines]
    exact (List.suffix_append _ _).isInfix
  · rw [hlines]
    exact List.sublist_append_left _ _

theorem lineOperation_of_open (hopts : opts.dryRun = false) (hblock : CompleteLines block)
    (hfound : ¬ block.toList <:+: (fs.readFile filename).toList)
    (hopen : ¬ Ended (fs.readFile filename).toList)
    (hreturns : Returns (addStringToFile opts filename block) fs () fs') :
    LineOperation opts filename block fs fs' ↔ Coincides (fs.readFile filename) block := by
  obtain ⟨first, rest, hlist, hfirst⟩ :=
    exists_first_line (String.toList_eq_nil_iff.not.mpr hblock.ne_empty) hblock.ended
  have hlines : linesOf (fs'.readFile filename).toList =
      linesOf (endedPart (fs.readFile filename).toList) ++
        (openLine (fs.readFile filename).toList ++ first) :: linesOf rest := by
    rw [readFile_addStringToFile hopts hfound hreturns, String.toList_append, hlist,
      linesOf_append_open _ hfirst]
  have hblockLines : linesOf block.toList = first :: linesOf rest := by
    rw [hlist, linesOf_line hfirst]
  have hkept : List.Sublist (linesOf (fs.readFile filename).toList)
        (linesOf (fs'.readFile filename).toList) ↔
      first = [] ∨ openLine (fs.readFile filename).toList ∈ linesOf rest := by
    rw [hlines, linesOf_of_not_ended hopen, List.append_sublist_append_left, List.singleton_sublist,
      List.mem_cons, List.self_eq_append_right]
  constructor
  · intro h
    refine ⟨hfound, hopen, first, rest, hlist, hfirst, hkept.mp h.kept, ?_⟩
    have hpresent := h.present
    rwa [hlines, hblockLines] at hpresent
  · rintro ⟨-, -, first', rest', hlist', hfirst', hor, hinfix⟩
    have hsame : first' :: linesOf rest' = first :: linesOf rest := by
      rw [← hblockLines, hlist', linesOf_line hfirst']
    obtain ⟨rfl, hrest⟩ := List.cons.inj hsame
    rw [hrest] at hor hinfix
    refine ⟨?_, hkept.mpr hor, addStringToFile_again hopts hreturns⟩
    rwa [hlines, hblockLines]

theorem lineOperation_iff (hopts : opts.dryRun = false) (hblock : CompleteLines block)
    (hreturns : Returns (addStringToFile opts filename block) fs () fs') :
    LineOperation opts filename block fs fs' ↔
      Appendable (fs.readFile filename) block ∨ Coincides (fs.readFile filename) block := by
  by_cases hfound : block.toList <:+: (fs.readFile filename).toList
  · rw [lineOperation_of_found hopts hfound hreturns]
    constructor
    · exact fun h => .inl ⟨fun _ => h, fun hnot => absurd hfound hnot⟩
    · rintro (h | h)
      · exact h.found hfound
      · exact absurd hfound h.1
  · by_cases hended : Ended (fs.readFile filename).toList
    · refine iff_of_true (lineOperation_of_ended hopts hfound hended hreturns) (.inl ?_)
      exact ⟨fun h => absurd h hfound, fun _ => hended⟩
    · rw [lineOperation_of_open hopts hblock hfound hended hreturns]
      constructor
      · exact .inr
      · rintro (h | h)
        · exact absurd (h.appended hfound) hended
        · exact h

/-! ## A sequence of calls -/

/-- Every block is appendable in the file that the calls before it leave. -/
def EachAppendable (opts : FileOptions) (filename : Path) (blocks : List String) (fs : FileSystem) :
    Prop :=
  ∀ before block after, blocks = before ++ block :: after →
    ∀ now, Returns (each (addStringToFile opts filename) before) fs () now →
      Appendable (now.readFile filename) block

/-- Text and lines at the end. -/
structure Continues (old new : String) : Prop where
  text : old.toList <+: new.toList
  lines : linesOf old.toList <+: linesOf new.toList

/-- The block stands there as a text and as lines. -/
structure Stands (block content : String) : Prop where
  text : block.toList <:+: content.toList
  lines : linesOf block.toList <:+: linesOf content.toList

theorem Stands.continues {content new : String} (h : Stands block content)
    (hcontinues : Continues content new) : Stands block new :=
  ⟨h.text.trans hcontinues.text.isInfix, h.lines.trans hcontinues.lines.isInfix⟩

theorem Continues.trans {old now new : String} (h : Continues old now) (h' : Continues now new) :
    Continues old new :=
  ⟨h.text.trans h'.text, h.lines.trans h'.lines⟩

theorem continues_of_appendable (hopts : opts.dryRun = false)
    (happendable : Appendable (fs.readFile filename) block)
    (hreturns : Returns (addStringToFile opts filename block) fs () fs') :
    Continues (fs.readFile filename) (fs'.readFile filename) ∧
      Stands block (fs'.readFile filename) := by
  by_cases hfound : block.toList <:+: (fs.readFile filename).toList
  · obtain rfl := (Returns.unique hreturns (addStringToFile_of_contained hfound)).2
    exact ⟨⟨List.prefix_rfl, List.prefix_rfl⟩, hfound, happendable.found hfound⟩
  · have hlines := linesOf_appended (happendable.appended hfound) block
    rw [readFile_addStringToFile hopts hfound hreturns]
    refine ⟨⟨?_, ?_⟩, contained_append _ _, ?_⟩
    · rw [String.toList_append]
      exact List.prefix_append _ _
    · rw [hlines]
      exact List.prefix_append _ _
    · rw [hlines]
      exact (List.suffix_append _ _).isInfix

theorem stands_of_eachAppendable (hopts : opts.dryRun = false) {blocks : List String}
    (happendable : EachAppendable opts filename blocks fs)
    (hreturns : Returns (each (addStringToFile opts filename) blocks) fs () fs') :
    Continues (fs.readFile filename) (fs'.readFile filename) ∧
      ∀ block ∈ blocks, Stands block (fs'.readFile filename) := by
  induction blocks generalizing fs with
  | nil =>
    obtain ⟨-, rfl⟩ := returns_pure.mp hreturns
    exact ⟨⟨List.prefix_rfl, List.prefix_rfl⟩, by simp⟩
  | cons block blocks ih =>
    obtain ⟨u, now, hfirst, hrest⟩ := returns_bind.mp hreturns
    have hstart : Appendable (fs.readFile filename) block :=
      happendable [] block blocks rfl fs (returns_pure.mpr ⟨rfl, rfl⟩)
    have hlater : EachAppendable opts filename blocks now := by
      intro before other after hblocks next hnext
      refine happendable (block :: before) other after (by rw [hblocks]; rfl) next ?_
      exact returns_bind.mpr ⟨u, now, hfirst, hnext⟩
    obtain ⟨hcontinues, hstands⟩ := continues_of_appendable hopts hstart hfirst
    obtain ⟨hcontinuesRest, hstandsRest⟩ := ih hlater hrest
    refine ⟨hcontinues.trans hcontinuesRest, ?_⟩
    rw [List.forall_mem_cons]
    exact ⟨hstands.continues hcontinuesRest, hstandsRest⟩

theorem lineOperations_of_eachAppendable (hopts : opts.dryRun = false) {blocks : List String}
    (happendable : EachAppendable opts filename blocks fs)
    (hreturns : Returns (each (addStringToFile opts filename) blocks) fs () fs') :
    LineOperations opts filename blocks fs fs' := by
  obtain ⟨hcontinues, hstands⟩ := stands_of_eachAppendable hopts happendable hreturns
  refine ⟨fun block hblock => (hstands block hblock).lines, hcontinues.lines.sublist, ?_⟩
  exact fun block hblock => addStringToFile_of_contained (hstands block hblock).text

/-- A call is an operation on lines if and only if its block is found as lines or put behind a
line end, a coincidence apart; a sequence of such calls leaves all of its blocks. -/
theorem addStringToFile_lines (hopts : opts.dryRun = false) :
    (∀ block fs fs', CompleteLines block →
        Returns (addStringToFile opts filename block) fs () fs' →
          (LineOperation opts filename block fs fs' ↔
            Appendable (fs.readFile filename) block ∨ Coincides (fs.readFile filename) block)) ∧
      ∀ blocks fs fs', (∀ block ∈ blocks, CompleteLines block) →
        Returns (each (addStringToFile opts filename) blocks) fs () fs' →
          EachAppendable opts filename blocks fs →
            LineOperations opts filename blocks fs fs' := by
  refine ⟨fun block fs fs' hblock hreturns => lineOperation_iff hopts hblock hreturns, ?_⟩
  exact fun blocks fs fs' _ hreturns happendable =>
    lineOperations_of_eachAppendable hopts happendable hreturns

/-! ## An open line -/

/-- A file for the names of the hosts. -/
def hostsFileSystem (content : String) : FileSystem where
  entries := [(["etc"], .directory), (["etc", "hosts"], .file content)]
  nodup := by simp
  parents := by simp

def hostsBlock : String := "10.0.0.2\thead.a.b head\n"

/-- One block is appendable where it is. -/
theorem eachAppendable_singleton (h : Appendable (fs.readFile filename) block) :
    EachAppendable opts filename [block] fs := by
  intro before other after hblocks now hnow
  cases before with
  | nil =>
    obtain ⟨rfl, -⟩ := List.cons.inj hblocks
    obtain ⟨-, rfl⟩ := returns_pure.mp hnow
    exact h
  | cons first before => simp at hblocks

theorem addStringToFile_lines_hosts :
    ∃ fs', Returns (each (addStringToFile ⟨false, []⟩ ["etc", "hosts"]) [hostsBlock])
        (hostsFileSystem "127.0.0.1 localhost\n") () fs' ∧
      LineOperations ⟨false, []⟩ ["etc", "hosts"] [hostsBlock]
        (hostsFileSystem "127.0.0.1 localhost\n") fs' := by
  have hreturns := returns_of_fst (x := each (addStringToFile ⟨false, []⟩ ["etc", "hosts"]) [hostsBlock])
    (s := hostsFileSystem "127.0.0.1 localhost\n") (a := ()) (by decide)
  have hcomplete : ∀ block ∈ [hostsBlock], CompleteLines block := by
    intro block hblock
    obtain rfl := List.mem_singleton.mp hblock
    exact ⟨by decide, by decide⟩
  have happendable : Appendable "127.0.0.1 localhost\n" hostsBlock :=
    ⟨fun h => absurd h (by decide), fun _ => by decide⟩
  exact ⟨_, hreturns, (@addStringToFile_lines ⟨false, []⟩ ["etc", "hosts"] rfl).2 _ _ _ hcomplete
    hreturns (eachAppendable_singleton happendable)⟩

/-- The address is glued to the last name of the file. -/
theorem open_line_is_glued :
    ∃ fs', Returns (addStringToFile ⟨false, []⟩ ["etc", "hosts"] hostsBlock)
        (hostsFileSystem "127.0.0.1 localhost") () fs' ∧
      ¬ LineOperation ⟨false, []⟩ ["etc", "hosts"] hostsBlock
          (hostsFileSystem "127.0.0.1 localhost") fs' := by
  have hreturns := returns_of_fst (x := addStringToFile ⟨false, []⟩ ["etc", "hosts"] hostsBlock)
    (s := hostsFileSystem "127.0.0.1 localhost") (a := ()) (by decide)
  refine ⟨_, hreturns, fun h => ?_⟩
  have hpresent := h.present
  revert hpresent
  decide

end OpenCattus
