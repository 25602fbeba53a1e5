import OpenCattus.Questionnaire.HostNames

/-!
# General settings, time and locale

The first three steps of the questionnaire. The zones form a tree whose menus are shown level by
level; the locales are grouped by their languages. An entry that was chosen from a menu is looked
up without a check.

None of the steps throws (`quiet_presenterGeneralSettings`, `quiet_presenterTime`,
`quiet_presenterLocale`).
-/

namespace OpenCattus

open Foundations Foundations.Text Foundations.Inet Program Dialog

/-! ## Maps in the order of their keys -/

variable {β : Type}

/-- `std::map::at`. -/
def atKey (key : String) (entries : List (String × β)) : Result β :=
  match Assoc.get key entries with
  | some b => .ok b
  | none => .error ⟨.outOfRange, "map::at"⟩

theorem atKey_eq_ok {key : String} {entries : List (String × β)} {b : β} :
    atKey key entries = .ok b ↔ Assoc.get key entries = some b := by
  unfold atKey
  split
  · rename_i found hfound
    simp [hfound]
  · rename_i hfound
    simp [hfound]

theorem exists_atKey {key : String} {entries : List (String × β)}
    (h : key ∈ entries.map Prod.fst) : ∃ b, atKey key entries = .ok b := by
  obtain ⟨b, hb⟩ := Option.isSome_iff_exists.mp (Assoc.isSome_get_iff.mpr h)
  exact ⟨b, by simp [atKey, hb]⟩

theorem mem_of_atKey {key : String} {entries : List (String × β)} {b : β}
    (h : atKey key entries = .ok b) : (key, b) ∈ entries := by
  unfold atKey at h
  split at h
  · rename_i hget
    obtain rfl := Except.ok.inj h
    exact Assoc.mem_of_get hget
  · cases h

/-- Update the value that `std::map::operator[]` finds or creates. -/
def updateAt (key : String) (fresh : β) (f : β → β) : List (String × β) → List (String × β)
  | [] => [(key, f fresh)]
  | (other, b) :: entries =>
    if other = key then (other, f b) :: entries
    else if key < other then (key, f fresh) :: (other, b) :: entries
    else (other, b) :: updateAt key fresh f entries

/-- The keys stand in their order, each once. -/
def InKeyOrder (entries : List (String × β)) : Prop := entries.Pairwise fun a b => a.1 < b.1

theorem get_eq_none_of_lt {key : String} {entries : List (String × β)}
    (h : ∀ entry ∈ entries, key < entry.1) : Assoc.get key entries = none := by
  rw [← Option.not_isSome_iff_eq_none, Assoc.isSome_get_iff, List.mem_map]
  rintro ⟨entry, hentry, rfl⟩
  exact String.lt_irrefl _ (h entry hentry)

theorem get_updateAt {entries : List (String × β)} (h : InKeyOrder entries) (key : String)
    (fresh : β) (f : β → β) (k : String) :
    Assoc.get k (updateAt key fresh f entries) =
      if key = k then some (f ((Assoc.get key entries).getD fresh)) else Assoc.get k entries := by
  induction entries with
  | nil => simp [updateAt, Assoc.get]
  | cons entry entries ih =>
    obtain ⟨other, b⟩ := entry
    obtain ⟨hfirst, hrest⟩ := List.pairwise_cons.mp h
    unfold updateAt
    by_cases hother : other = key
    · subst hother
      rw [if_pos rfl]
      by_cases hk : other = k <;> simp [Assoc.get, hk]
    · rw [if_neg hother]
      by_cases hlt : key < other
      · have hnone : Assoc.get key ((other, b) :: entries) = none := by
          refine get_eq_none_of_lt fun entry hentry => ?_
          rcases List.mem_cons.mp hentry with rfl | hentry
          · exact hlt
          · exact String.lt_trans hlt (hfirst entry hentry)
        rw [if_pos hlt, hnone]
        rfl
      · rw [if_neg hlt, Assoc.get, ih hrest, Assoc.get, Assoc.get, if_neg hother]
        by_cases hk : other = k
        · subst hk
          rw [if_pos rfl, if_neg (Ne.symm hother), if_pos rfl]
        · rw [if_neg hk, if_neg hk]

theorem mem_updateAt {entries : List (String × β)} {key : String} {fresh : β} {f : β → β}
    {entry : String × β} (h : entry ∈ updateAt key fresh f entries) :
    entry ∈ entries ∨ ∃ b, (b = fresh ∨ (key, b) ∈ entries) ∧ entry = (key, f b) := by
  induction entries with
  | nil => exact .inr ⟨fresh, .inl rfl, List.mem_singleton.mp h⟩
  | cons first entries ih =>
    obtain ⟨other, b⟩ := first
    unfold updateAt at h
    split at h
    · rename_i hother
      subst hother
      rcases List.mem_cons.mp h with rfl | h
      · exact .inr ⟨b, .inr List.mem_cons_self, rfl⟩
      · exact .inl (List.mem_cons_of_mem _ h)
    · split at h
      · rcases List.mem_cons.mp h with rfl | h
        · exact .inr ⟨fresh, .inl rfl, rfl⟩
        · exact .inl h
      · rcases List.mem_cons.mp h with rfl | h
        · exact .inl List.mem_cons_self
        · rcases ih h with hmem | ⟨c, hc, rfl⟩
          · exact .inl (List.mem_cons_of_mem _ hmem)
          · exact .inr ⟨c, hc.imp_right (List.mem_cons_of_mem _), rfl⟩

theorem inKeyOrder_updateAt {entries : List (String × β)} (h : InKeyOrder entries) (key : String)
    (fresh : β) (f : β → β) : InKeyOrder (updateAt key fresh f entries) := by
  induction entries with
  | nil => exact List.pairwise_singleton _ _
  | cons first entries ih =>
    obtain ⟨other, b⟩ := first
    obtain ⟨hfirst, hrest⟩ := List.pairwise_cons.mp h
    unfold updateAt
    split
    · exact List.pairwise_cons.mpr ⟨hfirst, hrest⟩
    · rename_i hother
      split
      · rename_i hlt
        refine List.pairwise_cons.mpr ⟨fun entry hentry => ?_, h⟩
        rcases List.mem_cons.mp hentry with rfl | hentry
        · exact hlt
        · exact String.lt_trans hlt (hfirst entry hentry)
      · rename_i hlt
        refine List.pairwise_cons.mpr ⟨fun entry hentry => ?_, ih hrest⟩
        rcases mem_updateAt hentry with hmem | ⟨c, -, rfl⟩
        · exact hfirst entry hmem
        · exact String.not_le.mp fun hle => hother (String.le_antisymm (String.not_lt.mp hlt) hle)

/-! ## Menus of enumerators -/

/-- A menu of the names of an enumeration. -/
def enumMenu (α : Type) [Enumeration α] : Presenter α := do
  let name ← listMenu (Enumeration.values.map (Enumeration.name : α → String))
  lift (valueOf (Enumeration.ofStringExact name))

theorem exists_ofStringExact {α : Type} [Enumeration α] {name : String}
    (h : name ∈ Enumeration.values.map (Enumeration.name : α → String)) :
    ∃ a : α, valueOf (Enumeration.ofStringExact name : Option α) = .ok a := by
  obtain ⟨a, ha, rfl⟩ := List.mem_map.mp h
  cases hfound : (Enumeration.ofStringExact (Enumeration.name a) : Option α) with
  | some b => exact ⟨b, rfl⟩
  | none => simpa using List.find?_eq_none.mp hfound a ha

theorem quiet_enumMenu {α : Type} [Enumeration α] (s : Session Cluster) :
    Quiet (enumMenu α) s := by
  refine quiet_bind.mpr ⟨quiet_listMenu _ _, ?_⟩
  intro name s' hmenu
  exact quiet_lift.mpr (exists_ofStringExact (returns_listMenu.mp hmenu).2)

/-! ## General settings -/

namespace Headnode

inductive BootTarget where
  | Text | Graphical
  deriving DecidableEq, Repr

instance : Enumeration BootTarget where
  values := [.Text, .Graphical]
  name
    | .Text => "Text"
    | .Graphical => "Graphical"
  mem_values a := by cases a <;> decide
  name_inj a b := by cases a <;> cases b <;> decide +kernel

end Headnode

/-- `PresenterGeneralSettings`. The boot target is asked for; nothing reads it. -/
def presenterGeneralSettings : Presenter Unit := do
  let generalSettings ← fieldMenu 3
  setModel fun model =>
    { model with
      name := generalSettings[0]
      companyName := generalSettings[1]
      adminMail := generalSettings[2] }
  let _ ← enumMenu Headnode.BootTarget
  pure ()

theorem quiet_presenterGeneralSettings (s : Session Cluster) :
    Quiet presenterGeneralSettings s := by
  refine quiet_bind.mpr ⟨quiet_accept _ _, fun _ _ _ => ?_⟩
  refine quiet_bind.mpr ⟨quiet_setModel _ _, fun _ _ _ => ?_⟩
  exact quiet_bind.mpr ⟨quiet_enumMenu _, fun _ _ _ => quiet_pure _ _⟩

/-! ## The tree of zones -/

def isSlash (c : Char) : Bool := c == '/'

/-- `splitTimezonePath`: a slash at the end begins no part. -/
def splitTimezonePath (path : String) : List String :=
  let parts := (splitEach isSlash path.toList).map String.ofList
  if parts.getLast? = some "" then parts.dropLast else parts

inductive TimezoneNode where
  | node (terminal : Bool) (children : List (String × TimezoneNode))

namespace TimezoneNode

def empty : TimezoneNode := .node false []

def terminal : TimezoneNode → Bool
  | .node terminal _ => terminal

def children : TimezoneNode → List (String × TimezoneNode)
  | .node _ children => children

/-- The loop of `insertTimezone`. -/
def insertParts : List String → TimezoneNode → TimezoneNode
  | [], .node _ children => .node true children
  | part :: parts, .node terminal children =>
    .node terminal (updateAt part empty (insertParts parts) children)

/-- `insertTimezone`. -/
def insertTimezone (root : TimezoneNode) (path : String) : TimezoneNode :=
  root.insertParts (splitTimezonePath path)

def childNames (node : TimezoneNode) : List String := node.children.map Prod.fst

mutual

/-- The number of menus on the longest way down. -/
def levels : TimezoneNode → Nat
  | .node _ children => levelsBelow children

def levelsBelow : List (String × TimezoneNode) → Nat
  | [] => 0
  | (_, child) :: children => max (levels child + 1) (levelsBelow children)

end

theorem levels_lt_levelsBelow {children : List (String × TimezoneNode)} {name : String}
    {child : TimezoneNode} (h : (name, child) ∈ children) :
    child.levels < levelsBelow children := by
  induction children with
  | nil => cases h
  | cons entry children ih =>
    obtain ⟨other, first⟩ := entry
    rw [levelsBelow]
    rcases List.mem_cons.mp h with heq | hmem
    · obtain ⟨rfl, rfl⟩ := Prod.mk.inj heq
      omega
    · have hlt := ih hmem
      omega

theorem levels_lt {node child : TimezoneNode} {name : String}
    (h : (name, child) ∈ node.children) : child.levels < node.levels := by
  cases node with
  | node terminal children => exact levels_lt_levelsBelow h

end TimezoneNode

/-! ## Time -/

/-- The loop over the levels of the tree, at most as many as it has. -/
def selectLocation : Nat → TimezoneNode → String → Presenter String
  | 0, _, selectedTimezone => pure selectedTimezone
  | levels + 1, node, selectedTimezone =>
    if node.children = [] then pure selectedTimezone
    else do
      let selectedTimezoneLocation ← listMenu node.childNames
      let child ← lift (atKey selectedTimezoneLocation node.children)
      selectLocation levels child (selectedTimezone ++ "/" ++ selectedTimezoneLocation)

/-- The bound on the levels never ends the loop. -/
theorem selectLocation_succ {n : Nat} {node : TimezoneNode} (h : node.levels ≤ n)
    (selectedTimezone : String) :
    selectLocation (n + 1) node selectedTimezone = selectLocation n node selectedTimezone := by
  induction n generalizing node selectedTimezone with
  | zero =>
    have hleaf : node.children = [] := by
      rw [List.eq_nil_iff_forall_not_mem]
      intro entry hentry
      have hlt := TimezoneNode.levels_lt hentry
      omega
    simp [selectLocation, hleaf]
  | succ n ih =>
    have hbelow : ∀ location child, atKey location node.children = .ok child →
        child.levels ≤ n := by
      intro location child hchild
      have hlt := TimezoneNode.levels_lt (mem_of_atKey hchild)
      omega
    rw [selectLocation, selectLocation]
    split
    · rfl
    · funext s
      refine congrFun (bind_congr fun location => ?_) s
      cases hchild : atKey location node.children with
      | error e => rfl
      | ok child => exact ih (hbelow location child hchild) _

/-- What the questionnaire asks the machine, when every question is answered. -/
structure Probes where
  host : Host
  /-- The area and the rest of the name of every zone, in the order of the multimap. -/
  availableTimezones : List (String × String)
  /-- The output of `locale -a`. -/
  availableLocales : List String
  /-- The output of `locale -av`. -/
  localeMetadata : List String
  isDirectory : String → Bool
  /-- The names of the regular files of a directory that can be listed. -/
  regularFiles : String → Option (List String)
  regularFiles_named : ∀ directory files, regularFiles directory = some files →
    ∀ file ∈ files, '/' ∉ file.toList
  regularFiles_found : ∀ directory files, regularFiles directory = some files →
    ∀ file ∈ files, host.pathStatus (directory ++ "/" ++ file) = .found
  /-- The ids in the repository files for a system other than Ubuntu, a version of OFED and the
  target of its repository. -/
  repositoryIds : OS → String → String → List String
  /-- Whether `wget` leaves the image. -/
  downloads : String → Bool
  /-- The columns of the screen. -/
  columns : Nat
  /-- The columns that a text takes on a screen, as the formatting library counts them. -/
  displayWidth : List UInt8 → Nat

/-- No directory can be listed. -/
theorem Probes.unlisted_named : ∀ (_ : String) (files : List String), none = some files →
    ∀ file ∈ files, '/' ∉ file.toList := by
  rintro - files ⟨⟩

theorem Probes.unlisted_found (host : Host) : ∀ (directory : String) (files : List String),
    none = some files → ∀ file ∈ files, host.pathStatus (directory ++ "/" ++ file) = .found := by
  rintro - files ⟨⟩

/-- The tree of the zones of an area. -/
def timezoneTree (probes : Probes) (timezoneArea : String) : TimezoneNode :=
  (probes.availableTimezones.filter (·.1 = timezoneArea)).foldl
    (fun root tz => root.insertTimezone tz.2) .empty

def presenterTime (probes : Probes) : Presenter Unit := do
  if probes.availableTimezones = [] then fatalMessage
  else do
    let timezoneArea ← listMenu
      ((probes.availableTimezones.map Prod.fst).dedup.insertionSort (· ≤ ·))
    let tree := timezoneTree probes timezoneArea
    if tree.terminal = false ∧ tree.children = [] then fatalMessage
    else do
      let selectedTimezone ← selectLocation tree.levels tree timezoneArea
      setModel fun model =>
        { model with timezone := { model.timezone with timezone := selectedTimezone } }
      let timeservers ← collectListMenu
      setModel fun model =>
        { model with
          timezone :=
            { model.timezone with timeservers := model.timezone.timeservers ++ timeservers } }

theorem quiet_selectLocation {levels : Nat} {node : TimezoneNode} {selectedTimezone : String}
    (s : Session Cluster) : Quiet (selectLocation levels node selectedTimezone) s := by
  induction levels generalizing node selectedTimezone s with
  | zero => exact quiet_pure _ s
  | succ levels ih =>
    unfold selectLocation
    split
    · exact quiet_pure _ s
    · refine quiet_bind.mpr ⟨quiet_listMenu _ _, fun location s' hmenu => ?_⟩
      have hfound := exists_atKey (returns_listMenu.mp hmenu).2
      exact quiet_bind.mpr ⟨quiet_lift.mpr hfound, fun _ s'' _ => ih s''⟩

theorem quiet_presenterTime (probes : Probes) (s : Session Cluster) :
    Quiet (presenterTime probes) s := by
  unfold presenterTime
  split
  · exact quiet_fatalMessage s
  · refine quiet_bind.mpr ⟨quiet_listMenu _ _, fun area s₁ _ => ?_⟩
    dsimp only
    split
    · exact quiet_fatalMessage s₁
    · refine quiet_bind.mpr ⟨quiet_selectLocation _, fun _ _ _ => ?_⟩
      refine quiet_bind.mpr ⟨quiet_setModel _ _, fun _ _ _ => ?_⟩
      exact quiet_bind.mpr ⟨quiet_accept _ _, fun _ _ _ => quiet_setModel _ _⟩

/-! ## Locales -/

namespace Locale

def advancedLocaleChoice : String := "Advanced / legacy locales"

def isBlank (c : Char) : Bool := c == ' ' || c == '\t'

/-- `trim` of this presenter, which keeps line ends. -/
def trim (value : String) : String :=
  String.ofList ((value.toList.dropWhile isBlank).reverse.dropWhile isBlank).reverse

/-- `utf8` or `utf-8` between the first dot and the modifier. -/
def isUtf8Locale (locale : String) : Bool :=
  let lowered := lower locale
  let codeset := beforeFirst '@' (afterFirst '.' lowered)
  '.' ∈ lowered.toList && (codeset = "utf8" || codeset = "utf-8")

/-- The name with another codeset; a modifier is kept. -/
def withCodeset (codeset locale : String) : String :=
  if '.' ∈ locale.toList then
    let rest := afterFirst '.' locale
    beforeFirst '.' locale ++ codeset ++
      (if '@' ∈ rest.toList then "@" ++ afterFirst '@' rest else "")
  else locale

def localeWithoutCodeset (locale : String) : String := withCodeset "" locale

def normalizeUtf8Display (locale : String) : String := withCodeset ".UTF-8" locale

def languageCode (locale : String) : String :=
  String.ofList ((localeWithoutCodeset locale).toList.takeWhile fun c =>
    c ≠ '_' && c ≠ '@' && c ≠ '.')

def isTechnicalLocale (locale : String) : Bool :=
  languageCode locale = "C" || languageCode locale = "POSIX"

/-- One line of `locale -av`: the locale that is described, and the languages so far. The
territory is not used. -/
def parseMetadataLine (state : String × List (String × String)) (line : String) :
    String × List (String × String) :=
  if startsWith line "locale:" then
    let payload := trim (String.ofList (line.toList.drop 7))
    let currentLocale := String.ofList (payload.toList.takeWhile fun c => !isBlank c)
    (currentLocale, Assoc.emplace currentLocale "" state.2)
  else if state.1 = "" then state
  else if '|' ∈ line.toList then
    if trim (beforeFirst '|' line) = "language" then
      (state.1, Assoc.set state.1 (trim (afterFirst '|' line)) state.2)
    else state
  else state

/-- `parseLocaleMetadata`: the languages of the locales that are described. -/
def parseLocaleMetadata (lines : List String) : List (String × String) :=
  (lines.foldl parseMetadataLine ("", [])).2

def detectedLanguageNames (probes : Probes) : List (String × String) :=
  let metadata := parseLocaleMetadata probes.localeMetadata
  probes.availableLocales.foldl (fun names locale =>
    let code := lower (languageCode locale)
    if code = "C" ∨ code = "POSIX" then names
    else
      match Assoc.get locale metadata with
      | some language => if language = "" then names else Assoc.emplace code language names
      | none => names) []

def preferredLanguageNamesByCode : List (String × String) :=
  [("en", "English"), ("pt", "Portuguese"), ("zh", "Chinese")]

def languageLabel (code : String) (detected : List (String × String)) : String :=
  if code = "C" ∨ code = "POSIX" then "C/POSIX"
  else
    let lowered := lower code
    match Assoc.get lowered preferredLanguageNamesByCode with
    | some name => name ++ " (" ++ lowered ++ ")"
    | none =>
      match Assoc.get lowered detected with
      | some name =>
        if name = "" then code ++ " (" ++ lowered ++ ")" else name ++ " (" ++ lowered ++ ")"
      | none => code ++ " (" ++ lowered ++ ")"

structure LocaleChoice where
  label : String
  locale : String
  deriving DecidableEq, Repr

def isGrouped (locale : String) : Bool := isUtf8Locale locale && !isTechnicalLocale locale

def legacyLocales (probes : Probes) : List String :=
  probes.availableLocales.filter fun locale => !isGrouped locale

/-- The languages in the order of their names, each with its locales in the order of their
labels. -/
def localeGroups (probes : Probes) : List (String × List LocaleChoice) :=
  let detected := detectedLanguageNames probes
  let groups := (probes.availableLocales.filter isGrouped).foldl (fun groups locale =>
    updateAt (languageLabel (languageCode locale) detected) []
      (· ++ [{ label := normalizeUtf8Display locale, locale }]) groups) []
  groups.map fun group => (group.1, group.2.insertionSort (·.label ≤ ·.label))

def languageChoices (probes : Probes) : List String :=
  (localeGroups probes).map Prod.fst ++
    (if legacyLocales probes = [] then [] else [advancedLocaleChoice])

end Locale

open OpenCattus.Locale in
def presenterLocale (probes : Probes) : Presenter Unit := do
  if probes.availableLocales = [] then fatalMessage
  else if localeGroups probes = [] then do
    let selectedLocale ← listMenu probes.availableLocales
    setModel fun model => { model with locale := selectedLocale }
  else do
    let selectedLanguage ← listMenu (languageChoices probes)
    if selectedLanguage = advancedLocaleChoice then do
      let selectedLocale ← listMenu (legacyLocales probes)
      setModel fun model => { model with locale := selectedLocale }
    else do
      let localeChoices ← lift (atKey selectedLanguage (localeGroups probes))
      match localeChoices with
      | [choice] => setModel fun model => { model with locale := choice.locale }
      | choices => do
        let selectedRegion ← listMenu (choices.map (·.label))
        let selectedLocale ← lift (atKey selectedRegion (choices.map fun c => (c.label, c.locale)))
        setModel fun model => { model with locale := selectedLocale }

open OpenCattus.Locale in
theorem quiet_presenterLocale (probes : Probes) (s : Session Cluster) :
    Quiet (presenterLocale probes) s := by
  unfold presenterLocale
  split
  · exact quiet_fatalMessage s
  · split
    · exact quiet_bind.mpr ⟨quiet_listMenu _ _, fun _ _ _ => quiet_setModel _ _⟩
    · refine quiet_bind.mpr ⟨quiet_listMenu _ _, fun selectedLanguage s₁ hmenu => ?_⟩
      split
      · exact quiet_bind.mpr ⟨quiet_listMenu _ _, fun _ _ _ => quiet_setModel _ _⟩
      · rename_i hne
        have hgroup : selectedLanguage ∈ (localeGroups probes).map Prod.fst := by
          rcases List.mem_append.mp (returns_listMenu.mp hmenu).2 with hmem | hmem
          · exact hmem
          · split at hmem
            · cases hmem
            · exact absurd (List.mem_singleton.mp hmem) hne
        refine quiet_bind.mpr ⟨quiet_lift.mpr (exists_atKey hgroup), fun localeChoices s₂ _ => ?_⟩
        split
        · exact quiet_setModel _ _
        · refine quiet_bind.mpr ⟨quiet_listMenu _ _, fun selectedRegion s₃ hregion => ?_⟩
          refine quiet_bind.mpr ⟨quiet_lift.mpr (exists_atKey ?_), fun _ _ _ => quiet_setModel _ _⟩
          rw [List.map_map]
          exact (returns_listMenu.mp hregion).2

end OpenCattus
