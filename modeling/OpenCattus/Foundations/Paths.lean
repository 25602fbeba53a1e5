import OpenCattus.Foundations.FileSystem
import OpenCattus.Foundations.Lines

/-!
# Paths as texts

The normal form of a written path, and where a path leads in a file system without symbolic links.

The names of the normal form of an absolute path are the place that the path leads to
(`resolve_eq_location`, `names_normalize`). A normal form begins with the text of a directory and a
separator only when this place is in the directory, or is the directory itself and the text ends
there (`startsWith_lexicallyNormal`).
-/

namespace Foundations

open Text

namespace Paths

def isSeparator (c : Char) : Bool := c == '/'

/-- The names between the separators. Those at a separator in front, at one at the end and between
two of them are empty. -/
def components (path : String) : List String :=
  (splitEach isSeparator path.toList).map String.ofList

def isAbsolute (path : String) : Bool := startsWith path "/"

/-! ## Normal forms -/

/-- The names of a normal form, and whether a separator stands behind them. -/
structure Normal where
  names : List String
  trailing : Bool
  deriving DecidableEq, Repr

namespace Normal

def add (absolute : Bool) (n : Normal) (name : String) : Normal :=
  if name = "" ∨ name = "." then { n with trailing := true }
  else if name = ".." then
    -- Nothing is above the root.
    if n.names = [] ∧ absolute then n
    else if n.names = [] ∨ n.names.getLast? = some ".." then ⟨n.names ++ [".."], false⟩
    else ⟨n.names.dropLast, true⟩
  else ⟨n.names ++ [name], false⟩

/-- What stands behind the last name. -/
def ending (n : Normal) : String :=
  if n.trailing ∧ n.names ≠ [] ∧ n.names.getLast? ≠ some ".." then "/" else ""

theorem ending_eq (n : Normal) : n.ending = "" ∨ n.ending = "/" := by
  unfold ending
  split
  · exact .inr rfl
  · exact .inl rfl

def text (absolute : Bool) (n : Normal) : String :=
  let path := (if absolute then "/" else "") ++ "/".intercalate n.names ++ n.ending
  if path = "" then "." else path

end Normal

def normalize (path : String) : Normal :=
  (components path).foldl (Normal.add (isAbsolute path)) ⟨[], false⟩

/-- `std::filesystem::path::lexically_normal`. -/
def lexicallyNormal (path : String) : String :=
  if path = "" then "" else (normalize path).text (isAbsolute path)

example : ["/a/./b//../c", "/a/b/..", "/..", "a/..", "../a/..", "/a/.", "a//"].map lexicallyNormal =
    ["/a/c", "/a/", "/", ".", "..", "/a/", "a/"] := by decide

/-! ## Where a path leads -/

/-- The place that a name leads to. -/
def follow (place : Path) (name : String) : Path :=
  if name = "" ∨ name = "." then place
  else if name = ".." then place.dropLast
  else place ++ [name]

def location (start : Path) (path : String) : Path := (components path).foldl follow start

/-- A name leads on from a directory, to something that is there. -/
def step (fs : FileSystem) (place : Path) (name : String) : Option Path :=
  if fs.lookup place = some .directory ∧ (fs.lookup (follow place name)).isSome then
    some (follow place name)
  else none

/-- The entry that a path leads to, when there is one. -/
def resolve (fs : FileSystem) (workingDirectory : Path) (path : String) : Option Path :=
  if path = "" then none
  else (components path).foldlM (step fs) (if isAbsolute path then [] else workingDirectory)

theorem foldlM_step {fs : FileSystem} {names : List String} {start place : Path}
    (h : names.foldlM (step fs) start = some place) :
    place = names.foldl follow start ∧
      ((fs.lookup start).isSome = true → (fs.lookup place).isSome = true) := by
  induction names generalizing start with
  | nil =>
    obtain rfl := Option.some.inj h
    exact ⟨rfl, id⟩
  | cons name names ih =>
    rw [List.foldlM_cons] at h
    obtain ⟨next, hnext, hrest⟩ := Option.bind_eq_some_iff.mp h
    unfold step at hnext
    split at hnext
    · rename_i hfound
      obtain rfl := Option.some.inj hnext
      obtain ⟨hplace, hthere⟩ := ih hrest
      exact ⟨hplace, fun _ => hthere hfound.2⟩
    · cases hnext

/-- The way does not change where nothing on it does. -/
theorem foldlM_step_congr {fs fs' : FileSystem} {names : List String} {start : Path}
    (h : ∀ front, front <+: names →
      fs'.lookup (front.foldl follow start) = fs.lookup (front.foldl follow start)) :
    names.foldlM (step fs') start = names.foldlM (step fs) start := by
  induction names generalizing start with
  | nil => rfl
  | cons name names ih =>
    have hfront := h [] List.nil_prefix
    have hname := h [name] (List.cons_prefix_cons.mpr ⟨rfl, List.nil_prefix⟩)
    have hstep : step fs' start name = step fs start name := by
      unfold step
      rw [show fs'.lookup start = fs.lookup start from hfront,
        show fs'.lookup (follow start name) = fs.lookup (follow start name) from hname]
    rw [List.foldlM_cons, List.foldlM_cons, hstep]
    cases hnext : step fs start name with
    | none => rfl
    | some next =>
      have hplace : next = follow start name := by
        unfold step at hnext
        split at hnext
        · exact (Option.some.inj hnext).symm
        · cases hnext
      subst hplace
      exact ih fun front hbegins =>
        h (name :: front) (List.cons_prefix_cons.mpr ⟨rfl, hbegins⟩)

/-- A way through a place where nothing is leads to nothing. -/
theorem foldlM_step_eq_none {fs : FileSystem} {names front : List String} {start : Path}
    (hstart : (fs.lookup start).isSome = true) (hbegins : front <+: names)
    (hgone : fs.lookup (front.foldl follow start) = none) :
    names.foldlM (step fs) start = none := by
  obtain ⟨rest, rfl⟩ := hbegins
  rw [List.foldlM_append]
  cases hfront : front.foldlM (step fs) start with
  | none => rfl
  | some place =>
    obtain ⟨rfl, hthere⟩ := foldlM_step hfront
    rw [hgone] at hthere
    cases hthere hstart

/-- An absolute path leads to an entry whose names are the ones that are left of it. -/
theorem resolve_eq_location {fs : FileSystem} {workingDirectory place : Path} {path : String}
    (habsolute : isAbsolute path = true) (h : resolve fs workingDirectory path = some place) :
    place = location [] path ∧ (fs.lookup place).isSome = true := by
  have hne : path ≠ "" := by
    rintro rfl
    exact absurd habsolute (by decide)
  rw [resolve, if_neg hne, if_pos habsolute] at h
  obtain ⟨hplace, hthere⟩ := foldlM_step h
  exact ⟨hplace, hthere rfl⟩

/-! ## The names of a normal form -/

/-- Names of entries: they are not empty and have no separator. -/
def CleanNames (names : List String) : Prop := ∀ name ∈ names, name ≠ "" ∧ '/' ∉ name.toList

theorem separator_notMem_components {path name : String} (h : name ∈ components path) :
    '/' ∉ name.toList := by
  obtain ⟨t, ht, rfl⟩ := List.mem_map.mp h
  rw [String.toList_ofList]
  intro hslash
  exact absurd (clean_of_mem_splitEach ht '/' hslash) (by decide)

theorem CleanNames.add {n : Normal} (h : CleanNames n.names) (absolute : Bool) {name : String}
    (hname : '/' ∉ name.toList) : CleanNames (n.add absolute name).names := by
  have hpush : ∀ last : String, last ≠ "" → '/' ∉ last.toList → CleanNames (n.names ++ [last]) := by
    intro last hne hclean other hother
    rcases List.mem_append.mp hother with hother | hother
    · exact h other hother
    · obtain rfl := List.mem_singleton.mp hother
      exact ⟨hne, hclean⟩
  unfold Normal.add
  split
  · exact h
  · rename_i hplain
    split
    · split
      · exact h
      · split
        · exact hpush ".." (by decide) (by decide)
        · exact fun other hother => h other (List.mem_of_mem_dropLast hother)
    · exact hpush name (fun hnil => hplain (.inl hnil)) hname

theorem cleanNames_normalize (path : String) : CleanNames (normalize path).names := by
  have hfold : ∀ (names : List String) (n : Normal), (∀ name ∈ names, '/' ∉ name.toList) →
      CleanNames n.names → CleanNames (names.foldl (Normal.add (isAbsolute path)) n).names := by
    intro names
    induction names with
    | nil => exact fun n _ hn => hn
    | cons name names ih =>
      intro n hnames hn
      obtain ⟨hname, hnames⟩ := List.forall_mem_cons.mp hnames
      exact ih _ hnames (hn.add _ hname)
  exact hfold _ _ (fun name => separator_notMem_components) (by simp [CleanNames])

/-- Under the root a step of the normal form is a step on the way. -/
theorem names_add {n : Normal} (h : ".." ∉ n.names) (name : String) :
    (n.add true name).names = follow n.names name ∧ ".." ∉ follow n.names name := by
  unfold Normal.add follow
  split
  · exact ⟨rfl, h⟩
  · split
    · have hlast : ¬ (n.names.getLast? = some "..") :=
        fun hlast => h (List.mem_of_getLast? hlast)
      split
      · rename_i hroot
        rw [hroot.1]
        exact ⟨rfl, by simp⟩
      · rename_i hroot
        rw [if_neg (by simpa [hlast] using hroot)]
        exact ⟨rfl, fun hmem => h (List.mem_of_mem_dropLast hmem)⟩
    · rename_i hname
      refine ⟨rfl, fun hmem => ?_⟩
      rcases List.mem_append.mp hmem with hmem | hmem
      · exact h hmem
      · exact hname (List.mem_singleton.mp hmem).symm

theorem names_normalize {path : String} (h : isAbsolute path = true) :
    (normalize path).names = location [] path := by
  have hfold : ∀ (names : List String) (n : Normal), ".." ∉ n.names →
      (names.foldl (Normal.add true) n).names = names.foldl follow n.names := by
    intro names
    induction names with
    | nil => exact fun n _ => rfl
    | cons name names ih =>
      intro n hn
      obtain ⟨hstep, hkept⟩ := names_add hn name
      rw [List.foldl_cons, List.foldl_cons, ih _ (by rwa [hstep]), hstep]
  rw [normalize, h]
  exact hfold _ _ (by simp)

/-! ## Normal forms in a directory -/

theorem splitEach_append_separator {c : Char} {sep : Char → Bool} (hc : sep c = true)
    (cs rest : List Char) : splitEach sep (cs ++ c :: rest) = splitEach sep cs ++ splitEach sep rest := by
  induction cs with
  | nil => simp [splitEach, hc]
  | cons d cs ih =>
    rw [List.cons_append, splitEach, splitEach, ih]
    split
    · rw [List.cons_append]
    · exact consHead_append d (splitEach_ne_nil cs) _

theorem components_append (front behind : String) :
    components (front ++ "/" ++ behind) = components front ++ components behind := by
  have htext : (front ++ "/" ++ behind).toList = front.toList ++ '/' :: behind.toList := by simp
  rw [components, htext, splitEach_append_separator rfl, List.map_append]
  rfl

theorem components_of_clean {name : String} (h : '/' ∉ name.toList) : components name = [name] := by
  have hclean : ∀ c ∈ name.toList, isSeparator c = false := by
    intro c hc
    rw [isSeparator, beq_eq_false_iff_ne]
    rintro rfl
    exact h hc
  rw [components, splitEach_of_clean hclean, List.map_singleton, String.ofList_toList]

theorem eq_empty_of_components {path : String} (h : components path = [""]) : path = "" := by
  obtain ⟨t, hsplit, ht⟩ := List.map_eq_singleton_iff.mp h
  obtain rfl : t = [] := by simpa using congrArg String.toList ht
  rcases (splitEach_eq_cons hsplit).2 with ⟨-, hpath⟩ | ⟨c, rest, -, -, hrest⟩
  · exact String.toList_eq_nil_iff.mp hpath
  · exact absurd hrest.symm (splitEach_ne_nil rest)

theorem components_ne_nil (path : String) : components path ≠ [] := by
  rw [components, ne_eq, List.map_eq_nil_iff]
  exact splitEach_ne_nil _

theorem components_intercalate {names : List String} (hne : names ≠ []) (h : CleanNames names) :
    components ("/".intercalate names) = names := by
  induction names with
  | nil => exact absurd rfl hne
  | cons name names ih =>
    obtain ⟨⟨-, hname⟩, hnames⟩ := List.forall_mem_cons.mp h
    cases names with
    | nil => exact components_of_clean hname
    | cons next names =>
      have hjoin : "/".intercalate (name :: next :: names) =
          name ++ "/" ++ "/".intercalate (next :: names) := by
        rw [← String.toList_inj]
        simp [String.toList_intercalate]
      rw [hjoin, components_append, components_of_clean hname, ih (by simp) hnames]
      rfl

theorem components_front (path : String) : components ("/" ++ path) = "" :: components path :=
  components_append "" path

theorem components_behind (path : String) : components (path ++ "/") = components path ++ [""] := by
  have htext := components_append path ""
  rwa [String.append_empty] at htext

theorem CleanNames.intercalate_ne {names : List String} (hne : names ≠ []) (h : CleanNames names) :
    "/".intercalate names ≠ "" := by
  intro hempty
  have hnames := components_intercalate hne h
  rw [hempty] at hnames
  exact (h "" (by rw [← hnames]; exact List.mem_singleton_self _)).1 rfl

/-- The components of a normal form that has names. -/
theorem components_text {n : Normal} (hne : n.names ≠ []) (h : CleanNames n.names)
    (absolute : Bool) :
    components (n.text absolute) = (if absolute then [""] else []) ++ n.names ++
      (if n.ending = "" then [] else [""]) := by
  have hnames := components_intercalate hne h
  have hbody := h.intercalate_ne hne
  have htext : n.text absolute =
      (if absolute then "/" else "") ++ "/".intercalate n.names ++ n.ending := by
    refine if_neg fun hempty => hbody ?_
    rw [String.append_eq_empty_iff, String.append_eq_empty_iff] at hempty
    exact hempty.1.2
  have hfront : components ((if absolute then "/" else "") ++ "/".intercalate n.names) =
      (if absolute then [""] else []) ++ n.names := by
    cases absolute with
    | true => exact (components_front _).trans (congrArg _ hnames)
    | false => exact (congrArg components (String.empty_append)).trans hnames
  rw [htext]
  rcases n.ending_eq with hending | hending
  · rw [hending, String.append_empty, hfront, if_pos rfl, List.append_nil]
  · have hslash : "/" ≠ "" := by decide
    rw [hending, components_behind, hfront, if_neg hslash]

/-- A normal form of three components is that of a path with names. -/
theorem names_ne_nil {path : String} (h : 3 ≤ (components (lexicallyNormal path)).length) :
    (normalize path).names ≠ [] ∧
      lexicallyNormal path = (normalize path).text (isAbsolute path) := by
  have hpath : path ≠ "" := by
    rintro rfl
    exact absurd h (by decide)
  have hnormal : lexicallyNormal path = (normalize path).text (isAbsolute path) := if_neg hpath
  refine ⟨fun hnil => ?_, hnormal⟩
  have hending : (normalize path).ending = "" := if_neg fun h => h.2.1 hnil
  rw [hnormal, Normal.text, hnil, hending] at h
  cases habsolute : isAbsolute path <;> rw [habsolute] at h <;> revert h <;> decide

/-- The text of a directory, with a separator behind it. -/
def directoryText (directory : Path) : String := "/" ++ "/".intercalate directory ++ "/"

section Directory

variable {path : String} {directory : Path}

/-- A normal form that begins with the text of a directory has the names of the directory, and
those of the text behind it. -/
theorem location_append {rest : String} (hne : directory ≠ []) (hclean : CleanNames directory)
    (h : lexicallyNormal path = directoryText directory ++ rest) :
    isAbsolute path = true ∧ location [] path ++
      (if (normalize path).ending = "" then [] else [""]) = directory ++ components rest := by
  have hcomponents : components (lexicallyNormal path) = "" :: directory ++ components rest := by
    rw [h, directoryText, components_append, components_front, components_intercalate hne hclean]
  have hlength : 3 ≤ (components (lexicallyNormal path)).length := by
    have hdirectory := List.length_pos_iff.mpr hne
    have hrest := List.length_pos_iff.mpr (components_ne_nil rest)
    rw [hcomponents, List.length_append, List.length_cons]
    omega
  obtain ⟨hnames, hnormal⟩ := names_ne_nil hlength
  rw [hnormal, components_text hnames (cleanNames_normalize path)] at hcomponents
  have habsolute : isAbsolute path = true := by
    -- A relative path begins with a name, and no name is empty.
    by_contra hrelative
    rw [if_neg hrelative, List.nil_append] at hcomponents
    obtain ⟨name, names, hcons⟩ := List.exists_cons_of_ne_nil hnames
    rw [hcons] at hcomponents
    obtain ⟨rfl, -⟩ := List.cons.inj hcomponents
    exact (cleanNames_normalize path "" (by rw [hcons]; exact List.mem_cons_self)).1 rfl
  rw [if_pos habsolute, names_normalize habsolute] at hcomponents
  exact ⟨habsolute, (List.cons.inj hcomponents).2⟩

theorem startsWith_lexicallyNormal (hne : directory ≠ []) (hclean : CleanNames directory)
    (h : startsWith (lexicallyNormal path) (directoryText directory) = true) :
    isAbsolute path = true ∧ directory <+: location [] path ∧
      (location [] path = directory ↔ lexicallyNormal path = directoryText directory) := by
  obtain ⟨rest, htext⟩ : ∃ rest, lexicallyNormal path = directoryText directory ++ rest := by
    obtain ⟨rest, hrest⟩ := List.isPrefixOf_iff_prefix.mp h
    refine ⟨String.ofList rest, ?_⟩
    rw [← String.toList_inj, String.toList_append, String.toList_ofList, hrest]
  obtain ⟨habsolute, hnames⟩ := location_append hne hclean htext
  refine ⟨habsolute, ?_, fun hplace => ?_, fun hends => ?_⟩
  · rcases List.append_eq_append_iff.mp hnames with ⟨names, hdirectory, htail⟩ | ⟨names, hplace, -⟩
    · have hshort := congrArg List.length htail
      have hrest := List.length_pos_iff.mpr (components_ne_nil rest)
      rw [List.length_append] at hshort
      obtain rfl : names = [] := by
        rw [← List.length_eq_zero_iff]
        split at hshort <;> simp only [List.length_nil, List.length_singleton] at hshort <;> omega
      rw [hdirectory, List.append_nil]
    · exact ⟨names, hplace.symm⟩
  · rw [hplace, List.append_cancel_left_eq] at hnames
    obtain rfl : rest = "" := by
      apply eq_empty_of_components
      split at hnames
      · exact absurd hnames.symm (components_ne_nil rest)
      · exact hnames.symm
    rw [htext, String.append_empty]
  · obtain rfl : rest = "" := by
      rw [htext, ← String.toList_inj, String.toList_append] at hends
      simpa using hends
    split at hnames
    · have hempty : "" ∈ location [] path := by
        rw [← List.append_nil (location [] path), hnames]
        exact List.mem_append_right _ (List.mem_singleton_self _)
      rw [← names_normalize habsolute] at hempty
      exact absurd rfl (cleanNames_normalize path "" hempty).1
    · exact List.append_cancel_right hnames

end Directory

end Paths

end Foundations
