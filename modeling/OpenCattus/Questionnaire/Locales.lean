import OpenCattus.Questionnaire.Timezones

/-!
# The menus of the locales

`presenterLocale` shows the languages, and below a language its locales under their labels, which
it looks up in a map that keeps the first entry of a label.

`locale_menus_iff` says when every locale can be chosen. Nothing but a locale of the machine ever
is (`Chooses.available`).
-/

namespace OpenCattus

open Foundations Foundations.Text Foundations.Inet Program Dialog OpenCattus.Locale

/-! ## The groups -/

namespace Locale

/-- The name of the group of a locale. -/
def groupOf (probes : Probes) (locale : String) : String :=
  languageLabel (languageCode locale) (detectedLanguageNames probes)

def choiceOf (locale : String) : LocaleChoice := { label := normalizeUtf8Display locale, locale }

/-- The locales that are grouped under a name. -/
def members (probes : Probes) (group : String) : List String :=
  (probes.availableLocales.filter isGrouped).filter (groupOf probes · = group)

theorem mem_members {probes : Probes} {group locale : String} :
    locale ∈ members probes group ↔
      locale ∈ probes.availableLocales ∧ isGrouped locale = true ∧ groupOf probes locale = group := by
  rw [members, List.mem_filter, List.mem_filter, decide_eq_true_iff, and_assoc]

theorem get_map_value {β γ : Type} (k : String) (f : β → γ) (entries : List (String × β)) :
    Assoc.get k (entries.map fun entry => (entry.1, f entry.2)) = (Assoc.get k entries).map f := by
  induction entries with
  | nil => rfl
  | cons entry entries ih =>
    rw [List.map_cons, Assoc.get, Assoc.get, ih]
    split <;> rfl

/-- The loop that fills the groups. -/
theorem get_foldl_updateAt {β : Type} (key : String → String) (value : String → β) (k : String)
    (locales : List String) {groups : List (String × List β)} (h : InKeyOrder groups) :
    ((Assoc.get k (locales.foldl (fun groups locale =>
        updateAt (key locale) [] (· ++ [value locale]) groups) groups)).getD [] =
      (Assoc.get k groups).getD [] ++ (locales.filter (key · = k)).map value) ∧
    ((Assoc.get k (locales.foldl (fun groups locale =>
        updateAt (key locale) [] (· ++ [value locale]) groups) groups)).isSome = true ↔
      (Assoc.get k groups).isSome = true ∨ locales.filter (key · = k) ≠ []) := by
  induction locales generalizing groups with
  | nil => simp
  | cons locale locales ih =>
    have horder := inKeyOrder_updateAt h (key locale) [] (· ++ [value locale])
    obtain ⟨hvalue, hsome⟩ := ih horder
    rw [List.foldl_cons, hvalue, hsome, get_updateAt h]
    by_cases hkey : key locale = k
    · rw [if_pos hkey, List.filter_cons_of_pos (by simpa using hkey)]
      subst hkey
      simp
    · rw [if_neg hkey, List.filter_cons_of_neg (by simpa using hkey)]
      exact ⟨rfl, Iff.rfl⟩

/-- A group is there when it has members, which stand in it in the order of their labels. -/
theorem get_localeGroups (probes : Probes) (group : String) :
    Assoc.get group (localeGroups probes) =
      if members probes group = [] then none
      else some (((members probes group).map choiceOf).insertionSort (·.label ≤ ·.label)) := by
  have hempty : InKeyOrder ([] : List (String × List LocaleChoice)) := List.Pairwise.nil
  obtain ⟨hvalue, hsome⟩ := get_foldl_updateAt (groupOf probes) choiceOf group
    (probes.availableLocales.filter isGrouped) hempty
  have hmap : Assoc.get group (localeGroups probes) =
      (Assoc.get group ((probes.availableLocales.filter isGrouped).foldl (fun groups locale =>
        updateAt (groupOf probes locale) [] (· ++ [choiceOf locale]) groups) [])).map
          (·.insertionSort (·.label ≤ ·.label)) := get_map_value _ _ _
  rw [hmap]
  generalize Assoc.get group ((probes.availableLocales.filter isGrouped).foldl (fun groups locale =>
    updateAt (groupOf probes locale) [] (· ++ [choiceOf locale]) groups) []) = found at *
  change _ ↔ _ ∨ members probes group ≠ [] at hsome
  change _ = _ ++ (members probes group).map choiceOf at hvalue
  split
  · rename_i hnil
    have hnone : found = none := by
      rw [← Option.not_isSome_iff_eq_none, hsome]
      simp [hnil, Assoc.get]
    rw [hnone]
    rfl
  · rename_i hne
    obtain ⟨choices, rfl⟩ := Option.isSome_iff_exists.mp (hsome.mpr (.inr hne))
    rw [Option.map_some]
    have hchoices : choices = (members probes group).map choiceOf := by
      simpa [Assoc.get] using hvalue
    rw [hchoices]

theorem localeGroups_eq_nil_iff {probes : Probes} :
    localeGroups probes = [] ↔ probes.availableLocales.filter isGrouped = [] := by
  constructor
  · intro hnil
    rw [List.eq_nil_iff_forall_not_mem]
    intro locale hlocale
    have hget := get_localeGroups probes (groupOf probes locale)
    have hmem : locale ∈ members probes (groupOf probes locale) :=
      List.mem_filter.mpr ⟨hlocale, by simp⟩
    rw [hnil, if_neg (List.ne_nil_of_mem hmem)] at hget
    cases hget
  · intro hnil
    rw [localeGroups, hnil]
    rfl

/-- No language is taken for the choice of the other locales. -/
theorem languageLabel_ne (code : String) (detected : List (String × String)) :
    languageLabel code detected ≠ advancedLocaleChoice := by
  have hclose : ∀ text : String, text ++ ")" ≠ advancedLocaleChoice := by
    intro text h
    have hlast := congrArg (fun t => t.toList.getLast?) h
    rw [String.toList_append] at hlast
    revert hlast
    simp [advancedLocaleChoice]
  unfold languageLabel
  split
  · decide
  · dsimp only
    split
    · exact hclose _
    · split
      · split <;> exact hclose _
      · exact hclose _

end Locale

/-! ## The choices -/

/-- The menus that end with a locale. -/
inductive Chooses (probes : Probes) : List String → String → Prop where
  | ungrouped {locale : String} (hnone : localeGroups probes = [])
    (h : locale ∈ probes.availableLocales) : Chooses probes [locale] locale
  | legacy {locale : String} (hsome : localeGroups probes ≠ [])
    (h : locale ∈ legacyLocales probes) : Chooses probes [advancedLocaleChoice, locale] locale
  | language {group : String} {choice : LocaleChoice}
    (h : Assoc.get group (localeGroups probes) = some [choice]) :
    Chooses probes [group] choice.locale
  | region {group label locale : String} {choices : List LocaleChoice}
    (h : Assoc.get group (localeGroups probes) = some choices) (hlength : choices.length ≠ 1)
    (hlabel : Assoc.get label (choices.map fun c => (c.label, c.locale)) = some locale) :
    Chooses probes [group, label] locale

theorem ne_advanced_of_get {probes : Probes} {group : String} {choices : List LocaleChoice}
    (h : Assoc.get group (localeGroups probes) = some choices) : group ≠ advancedLocaleChoice := by
  rw [get_localeGroups] at h
  split at h
  · cases h
  · rename_i hmembers
    obtain ⟨locale, hlocale⟩ := List.exists_mem_of_ne_nil _ hmembers
    rw [← (mem_members.mp hlocale).2.2]
    exact languageLabel_ne _ _

theorem localeGroups_ne_nil {probes : Probes} {group : String} {choices : List LocaleChoice}
    (h : Assoc.get group (localeGroups probes) = some choices) : localeGroups probes ≠ [] := by
  intro hnil
  rw [hnil] at h
  cases h

theorem mem_languageChoices {probes : Probes} {group : String} {choices : List LocaleChoice}
    (h : Assoc.get group (localeGroups probes) = some choices) : group ∈ languageChoices probes :=
  List.mem_append_left _ (Assoc.isSome_get_iff.mp (Option.isSome_iff_exists.mpr ⟨choices, h⟩))

theorem labels_ne_nil {probes : Probes} {group : String} {choices : List LocaleChoice}
    (h : Assoc.get group (localeGroups probes) = some choices) : choices.map (·.label) ≠ [] := by
  rw [get_localeGroups] at h
  split at h
  · cases h
  · rename_i hmembers
    obtain rfl := Option.some.inj h
    intro hnil
    have hlength := congrArg List.length hnil
    rw [List.length_map, List.length_insertionSort, List.length_map] at hlength
    exact hmembers (List.length_eq_zero_iff.mp hlength)

/-- What the step does, menu by menu. -/
theorem chooses_of_returns {probes : Probes} (hne : probes.availableLocales ≠ [])
    {s s' : Session Cluster} (h : Returns (presenterLocale probes) s () s') :
    ∃ choices locale, Chooses probes choices locale ∧
      s.script = choices.map .item ++ s'.script ∧ s'.model = { s.model with locale } := by
  unfold presenterLocale at h
  rw [if_neg hne] at h
  split at h
  · rename_i hnone
    obtain ⟨locale, s₁, hmenu, hset⟩ := returns_bind.mp h
    obtain ⟨rfl, hmem⟩ := returns_listMenu.mp hmenu
    obtain rfl := returns_setModel.mp hset
    exact ⟨[locale], locale, .ungrouped hnone hmem, rfl, rfl⟩
  · rename_i hsome
    obtain ⟨language, s₁, hmenu, hrest⟩ := returns_bind.mp h
    obtain ⟨rfl, hlanguage⟩ := returns_listMenu.mp hmenu
    split at hrest
    · rename_i hadvanced
      obtain ⟨locale, s₂, hlegacy, hset⟩ := returns_bind.mp hrest
      obtain ⟨rfl, hmem⟩ := returns_listMenu.mp hlegacy
      obtain rfl := returns_setModel.mp hset
      subst hadvanced
      exact ⟨_, locale, .legacy hsome hmem, rfl, rfl⟩
    · obtain ⟨choices, s₂, hlift, hchoices⟩ := returns_bind.mp hrest
      obtain ⟨hgroup, rfl⟩ := returns_lift.mp hlift
      rw [atKey_eq_ok] at hgroup
      split at hchoices
      · rename_i choice
        obtain rfl := returns_setModel.mp hchoices
        exact ⟨_, choice.locale, .language hgroup, rfl, rfl⟩
      · rename_i hlength
        obtain ⟨label, s₃, hregion, hfound⟩ := returns_bind.mp hchoices
        obtain ⟨rfl, -⟩ := returns_listMenu.mp hregion
        obtain ⟨locale, s₄, hlift, hset⟩ := returns_bind.mp hfound
        obtain ⟨hlabel, rfl⟩ := returns_lift.mp hlift
        obtain rfl := returns_setModel.mp hset
        rw [atKey_eq_ok] at hlabel
        refine ⟨_, locale, .region hgroup ?_ hlabel, rfl, rfl⟩
        intro hone
        obtain ⟨choice, rfl⟩ := List.length_eq_one_iff.mp hone
        exact hlength choice rfl

/-- The menus offer these choices. -/
theorem returns_of_chooses {probes : Probes} (hne : probes.availableLocales ≠ [])
    {choices : List String} {locale : String} (hchooses : Chooses probes choices locale)
    (model : Cluster) (script : List Answer) :
    Returns (presenterLocale probes) ⟨model, choices.map .item ++ script⟩ ()
      ⟨{ model with locale }, script⟩ := by
  unfold presenterLocale
  rw [if_neg hne]
  cases hchooses with
  | ungrouped hnone h =>
    rw [if_pos hnone]
    exact returns_bind.mpr ⟨locale, ⟨model, script⟩, returns_listMenu.mpr ⟨rfl, h⟩,
      returns_setModel.mpr rfl⟩
  | legacy hsome h =>
    rw [if_neg hsome]
    refine returns_bind.mpr ⟨advancedLocaleChoice, ⟨model, .item locale :: script⟩, ?_, ?_⟩
    · refine returns_listMenu.mpr ⟨rfl, List.mem_append_right _ ?_⟩
      rw [if_neg (List.ne_nil_of_mem h)]
      exact List.mem_singleton_self _
    · rw [if_pos rfl]
      exact returns_bind.mpr ⟨locale, ⟨model, script⟩, returns_listMenu.mpr ⟨rfl, h⟩,
        returns_setModel.mpr rfl⟩
  | @language group choice h =>
    rw [if_neg (localeGroups_ne_nil h)]
    refine returns_bind.mpr ⟨group, ⟨model, script⟩, ?_, ?_⟩
    · exact returns_listMenu.mpr ⟨rfl, mem_languageChoices h⟩
    · rw [if_neg (ne_advanced_of_get h)]
      exact returns_bind.mpr ⟨_, _, returns_lift.mpr ⟨atKey_eq_ok.mpr h, rfl⟩,
        returns_setModel.mpr rfl⟩
  | @region group label _ choices h hlength hlabel =>
    rw [if_neg (localeGroups_ne_nil h)]
    refine returns_bind.mpr ⟨group, ⟨model, .item label :: script⟩, ?_, ?_⟩
    · exact returns_listMenu.mpr ⟨rfl, mem_languageChoices h⟩
    · rw [if_neg (ne_advanced_of_get h)]
      refine returns_bind.mpr ⟨_, _, returns_lift.mpr ⟨atKey_eq_ok.mpr h, rfl⟩, ?_⟩
      have hmem : label ∈ choices.map (·.label) := by
        have hsome := Assoc.isSome_get_iff.mp (Option.isSome_iff_exists.mpr ⟨locale, hlabel⟩)
        rwa [List.map_map] at hsome
      split
      · exact absurd rfl hlength
      · exact returns_bind.mpr ⟨label, ⟨model, script⟩, returns_listMenu.mpr ⟨rfl, hmem⟩,
          returns_bind.mpr ⟨locale, _, returns_lift.mpr ⟨atKey_eq_ok.mpr hlabel, rfl⟩,
            returns_setModel.mpr rfl⟩⟩

/-! ## Menus without an end -/

theorem abort_of_listMenu {choices : List String} (hne : choices ≠ []) {s s' : Session Cluster}
    (h : Raises (listMenu choices : Presenter String) s .abort s') : .abort ∈ s.script := by
  unfold listMenu at h
  rw [if_neg hne] at h
  rcases raises_bind.mp h with hnext | ⟨answer, s₁, -, hfits⟩
  · obtain ⟨model, script⟩ := s
    cases script with
    | nil => cases hnext
    | cons answer rest => cases answer <;> first | exact List.mem_cons_self | cases hnext
  · split at hfits <;> cases hfits

theorem not_raises_abort_lift {α : Type} {x : Result α} {s s' : Session Cluster} :
    ¬ Raises (lift x : Presenter α) s .abort s' := by
  cases x <;> simp [Raises, lift, Program.ofExcept, Except.mapError]

/-- The step is only left by the operator. -/
theorem abort_of_presenterLocale {probes : Probes} (hne : probes.availableLocales ≠ [])
    {s s' : Session Cluster} (h : Raises (presenterLocale probes) s .abort s') :
    .abort ∈ s.script := by
  unfold presenterLocale at h
  rw [if_neg hne] at h
  split at h
  · rcases raises_bind.mp h with hmenu | ⟨_, s₁, -, hset⟩
    · exact abort_of_listMenu hne hmenu
    · cases hset
  · rename_i hsome
    have hlanguages : languageChoices probes ≠ [] := by
      unfold languageChoices
      simp [hsome]
    rcases raises_bind.mp h with hmenu | ⟨language, s₁, hmenu, hrest⟩
    · exact abort_of_listMenu hlanguages hmenu
    · obtain ⟨rfl, hlanguage⟩ := returns_listMenu.mp hmenu
      refine List.mem_cons_of_mem _ ?_
      split at hrest
      · rename_i hadvanced
        subst hadvanced
        have hlegacy : legacyLocales probes ≠ [] := by
          intro hnil
          rw [languageChoices, if_pos hnil, List.append_nil, ← Assoc.isSome_get_iff] at hlanguage
          obtain ⟨choices, hchoices⟩ := Option.isSome_iff_exists.mp hlanguage
          exact ne_advanced_of_get hchoices rfl
        rcases raises_bind.mp hrest with hmenu | ⟨_, s₂, -, hset⟩
        · exact abort_of_listMenu hlegacy hmenu
        · cases hset
      · rcases raises_bind.mp hrest with hlift | ⟨choices, s₂, hlift, hchoices⟩
        · exact absurd hlift not_raises_abort_lift
        · obtain ⟨hgroup, rfl⟩ := returns_lift.mp hlift
          split at hchoices
          · cases hchoices
          · rcases raises_bind.mp hchoices with hmenu | ⟨label, s₃, hmenu, hfound⟩
            · exact abort_of_listMenu (labels_ne_nil (atKey_eq_ok.mp hgroup)) hmenu
            · rcases raises_bind.mp hfound with hlift | ⟨_, s₄, -, hset⟩
              · exact absurd hlift not_raises_abort_lift
              · cases hset

/-! ## The locales that can be chosen -/

/-- Different names of grouped locales are displayed differently. -/
def DisplaysDiffer (probes : Probes) : Prop :=
  ∀ locale ∈ probes.availableLocales, ∀ other ∈ probes.availableLocales,
    isGrouped locale = true → isGrouped other = true →
      normalizeUtf8Display locale = normalizeUtf8Display other → locale = other

/-- The menus of the step. -/
structure LocaleMenus (probes : Probes) : Prop where
  /-- No lookup fails. -/
  quiet : ∀ s, Quiet (presenterLocale probes) s
  ends : ∀ s s', Raises (presenterLocale probes) s .abort s' → .abort ∈ s.script
  sound : ∀ s s', Returns (presenterLocale probes) s () s' →
    s'.model.locale ∈ probes.availableLocales
  reached : ∀ locale ∈ probes.availableLocales, ∃ choices : List String, ∀ model rest,
    Returns (presenterLocale probes) ⟨model, choices.map .item ++ rest⟩ () ⟨{ model with locale }, rest⟩

/-! ### The codeset of a name -/

theorem dot_mem_of_isGrouped {locale : String} (h : isGrouped locale = true) :
    '.' ∈ locale.toList := by
  unfold isGrouped isUtf8Locale at h
  rw [Bool.and_eq_true, Bool.and_eq_true, decide_eq_true_iff, toList_lower, List.mem_map] at h
  obtain ⟨⟨⟨c, hc, hlower⟩, -⟩, -⟩ := h
  obtain rfl := (toLower_eq_iff (by decide)).mp hlower
  exact hc

/-- What a name keeps when its codeset is replaced. -/
theorem exists_modifier {locale : String} (h : '.' ∈ locale.toList) :
    ∃ modifier, ∀ codeset, withCodeset codeset locale =
      beforeFirst '.' locale ++ codeset ++ modifier :=
  ⟨_, fun _ => if_pos h⟩

theorem dot_notMem_beforeFirst (s : String) : '.' ∉ (beforeFirst '.' s).toList := by
  rw [beforeFirst, String.toList_ofList]
  intro h
  simpa using List.mem_takeWhile_imp h

/-- The display of a name with a codeset settles the name without one. -/
theorem localeWithoutCodeset_eq {locale other : String} (hlocale : '.' ∈ locale.toList)
    (hother : '.' ∈ other.toList) (h : normalizeUtf8Display locale = normalizeUtf8Display other) :
    localeWithoutCodeset locale = localeWithoutCodeset other := by
  obtain ⟨modifier, hmodifier⟩ := exists_modifier hlocale
  obtain ⟨modifier', hmodifier'⟩ := exists_modifier hother
  have hdot : ∀ name rest : String, name ++ ".UTF-8" ++ rest = name ++ "." ++ ("UTF-8" ++ rest) := by
    intro name rest
    rw [← String.toList_inj]
    simp
  rw [normalizeUtf8Display, normalizeUtf8Display, hmodifier, hmodifier', hdot, hdot] at h
  have hbefore := congrArg (beforeFirst '.') h
  rw [beforeFirst_append rfl (dot_notMem_beforeFirst _),
    beforeFirst_append rfl (dot_notMem_beforeFirst _)] at hbefore
  have hafter := congrArg (afterFirst '.') h
  rw [afterFirst_append rfl (dot_notMem_beforeFirst _),
    afterFirst_append rfl (dot_notMem_beforeFirst _)] at hafter
  have hrest : modifier = modifier' := by
    have hlist := congrArg String.toList hafter
    rw [String.toList_append, String.toList_append, List.append_cancel_left_eq] at hlist
    exact String.toList_inj.mp hlist
  rw [localeWithoutCodeset, localeWithoutCodeset, hmodifier, hmodifier', hbefore, hrest]

section Reach

variable {probes : Probes}

theorem exists_choiceOf_of_get {group : String} {choices : List LocaleChoice}
    (h : Assoc.get group (localeGroups probes) = some choices) {choice : LocaleChoice} :
    choice ∈ choices ↔ ∃ locale ∈ members probes group, choiceOf locale = choice := by
  rw [get_localeGroups] at h
  split at h
  · cases h
  · obtain rfl := Option.some.inj h
    rw [List.mem_insertionSort, List.mem_map]

/-- A chosen locale is one of the machine. -/
theorem Chooses.available {choices : List String} {locale : String}
    (h : Chooses probes choices locale) : locale ∈ probes.availableLocales := by
  cases h with
  | ungrouped hnone h => exact h
  | legacy hsome h => exact (List.mem_filter.mp h).1
  | language h =>
    obtain ⟨locale, hlocale, rfl⟩ := (exists_choiceOf_of_get h).mp List.mem_cons_self
    exact (mem_members.mp hlocale).1
  | region h hlength hlabel =>
    obtain ⟨choice, hchoice, heq⟩ := List.mem_map.mp (Assoc.mem_of_get hlabel)
    obtain ⟨locale, hlocale, rfl⟩ := (exists_choiceOf_of_get h).mp hchoice
    obtain ⟨-, rfl⟩ := Prod.mk.inj heq
    exact (mem_members.mp hlocale).1

/-- Two grouped locales of the same display are in the same group. -/
theorem groupOf_eq {locale other : String} (hlocale : isGrouped locale = true)
    (hother : isGrouped other = true)
    (h : normalizeUtf8Display locale = normalizeUtf8Display other) :
    groupOf probes locale = groupOf probes other := by
  have hbase : localeWithoutCodeset locale = localeWithoutCodeset other :=
    localeWithoutCodeset_eq (dot_mem_of_isGrouped hlocale) (dot_mem_of_isGrouped hother) h
  unfold groupOf languageCode
  rw [hbase]

/-- The label of a locale finds it, unless another locale has this label. -/
theorem get_display (hdiffer : DisplaysDiffer probes) {locale : String}
    (h : locale ∈ probes.availableLocales) (hgrouped : isGrouped locale = true)
    {choices : List LocaleChoice}
    (hget : Assoc.get (groupOf probes locale) (localeGroups probes) = some choices) :
    Assoc.get (normalizeUtf8Display locale) (choices.map fun c => (c.label, c.locale)) =
      some locale := by
  have hmem : choiceOf locale ∈ choices :=
    (exists_choiceOf_of_get hget).mpr ⟨locale, mem_members.mpr ⟨h, hgrouped, rfl⟩, rfl⟩
  rw [Assoc.get_map]
  cases hfound : choices.find? fun c => c.label = normalizeUtf8Display locale with
  | none =>
    have hnot := List.find?_eq_none.mp hfound (choiceOf locale) hmem
    exact absurd (decide_eq_true rfl) hnot
  | some choice =>
    have hlabel := List.find?_some hfound
    obtain ⟨other, hother, rfl⟩ := (exists_choiceOf_of_get hget).mp (List.mem_of_find?_eq_some hfound)
    obtain ⟨havailable, hgroup, -⟩ := mem_members.mp hother
    obtain rfl := hdiffer other havailable locale h hgroup hgrouped (of_decide_eq_true hlabel)
    rfl

/-- A locale whose display is its own can be chosen. -/
theorem exists_chooses (hdiffer : DisplaysDiffer probes) {locale : String}
    (h : locale ∈ probes.availableLocales) : ∃ choices, Chooses probes choices locale := by
  by_cases hgrouped : isGrouped locale = true
  · have hmem : locale ∈ members probes (groupOf probes locale) := mem_members.mpr ⟨h, hgrouped, rfl⟩
    obtain ⟨choices, hget⟩ : ∃ choices,
        Assoc.get (groupOf probes locale) (localeGroups probes) = some choices :=
      ⟨_, by rw [get_localeGroups, if_neg (List.ne_nil_of_mem hmem)]⟩
    by_cases hlength : choices.length = 1
    · obtain ⟨choice, rfl⟩ := List.length_eq_one_iff.mp hlength
      have hchoice := (exists_choiceOf_of_get hget).mpr ⟨locale, hmem, rfl⟩
      obtain rfl := List.mem_singleton.mp hchoice
      exact ⟨_, .language hget⟩
    · exact ⟨_, .region hget hlength (get_display hdiffer h hgrouped hget)⟩
  · by_cases hnone : localeGroups probes = []
    · exact ⟨_, .ungrouped hnone h⟩
    · exact ⟨_, .legacy hnone (List.mem_filter.mpr ⟨h, by simpa using hgrouped⟩)⟩

/-- A grouped locale that can be chosen is the one that its label finds. -/
theorem get_of_chooses {choices : List String} {locale : String} (h : Chooses probes choices locale)
    (hgrouped : isGrouped locale = true) :
    ∃ entries, Assoc.get (groupOf probes locale) (localeGroups probes) = some entries ∧
      Assoc.get (normalizeUtf8Display locale) (entries.map fun c => (c.label, c.locale)) =
        some locale := by
  cases h with
  | ungrouped hnone h =>
    have hmem := List.mem_filter.mpr ⟨h, hgrouped⟩
    rw [localeGroups_eq_nil_iff.mp hnone] at hmem
    cases hmem
  | legacy hsome h =>
    have hnot := (List.mem_filter.mp h).2
    rw [hgrouped] at hnot
    cases hnot
  | language h =>
    obtain ⟨locale, hlocale, rfl⟩ := (exists_choiceOf_of_get h).mp List.mem_cons_self
    obtain ⟨-, -, rfl⟩ := mem_members.mp hlocale
    exact ⟨_, h, by simp [choiceOf, Assoc.get]⟩
  | region h hlength hlabel =>
    obtain ⟨choice, hchoice, heq⟩ := List.mem_map.mp (Assoc.mem_of_get hlabel)
    obtain ⟨locale, hlocale, rfl⟩ := (exists_choiceOf_of_get h).mp hchoice
    obtain ⟨rfl, rfl⟩ := Prod.mk.inj heq
    obtain ⟨-, -, rfl⟩ := mem_members.mp hlocale
    exact ⟨_, h, hlabel⟩

/-- Of two grouped locales with one display, the menus lose one. -/
theorem LocaleMenus.displaysDiffer (hne : probes.availableLocales ≠ []) (h : LocaleMenus probes) :
    DisplaysDiffer probes := by
  intro locale hlocale other hother hgrouped hgrouped' hdisplay
  have hfound : ∀ name ∈ probes.availableLocales, isGrouped name = true → ∃ entries,
      Assoc.get (groupOf probes name) (localeGroups probes) = some entries ∧
        Assoc.get (normalizeUtf8Display name) (entries.map fun c => (c.label, c.locale)) =
          some name := by
    intro name hname hgrouped
    obtain ⟨choices, hrun⟩ := h.reached name hname
    obtain ⟨_, chosen, hchooses, -, hmodel⟩ :=
      chooses_of_returns hne (hrun (Cluster.fresh probes.host) [])
    obtain rfl : name = chosen := congrArg Cluster.locale hmodel
    exact get_of_chooses hchooses hgrouped
  obtain ⟨entries, hentries, hfirst⟩ := hfound locale hlocale hgrouped
  obtain ⟨entries', hentries', hsecond⟩ := hfound other hother hgrouped'
  rw [groupOf_eq hgrouped hgrouped' hdisplay, hentries'] at hentries
  obtain rfl := Option.some.inj hentries
  rw [hdisplay, hsecond] at hfirst
  exact (Option.some.inj hfirst).symm

/-- The menus keep what they promise if and only if no two grouped locales are displayed alike. -/
theorem locale_menus_iff (hne : probes.availableLocales ≠ []) :
    LocaleMenus probes ↔ DisplaysDiffer probes := by
  refine ⟨LocaleMenus.displaysDiffer hne, fun hdiffer => ⟨quiet_presenterLocale probes,
    fun _ _ => abort_of_presenterLocale hne, ?_, ?_⟩⟩
  · intro s s' hrun
    obtain ⟨choices, locale, hchooses, -, hmodel⟩ := chooses_of_returns hne hrun
    rw [hmodel]
    exact hchooses.available
  · intro locale hlocale
    obtain ⟨choices, hchooses⟩ := exists_chooses hdiffer hlocale
    exact ⟨choices, returns_of_chooses hne hchooses⟩

end Reach

/-- A machine with these locales. -/
def localeProbes (locales : List String) : Probes :=
  { zoneProbes [] with availableLocales := locales }

theorem locale_menus_two_regions :
    LocaleMenus (localeProbes ["en_US.utf8", "en_GB.UTF-8", "C.UTF-8", "de_DE"]) := by
  refine (locale_menus_iff (by decide)).mpr ?_
  unfold DisplaysDiffer
  decide

/-- Two spellings of the codeset: the menu offers the label twice and finds the first. -/
theorem locale_of_other_spelling :
    ¬ LocaleMenus (localeProbes ["en_US.utf8", "en_US.UTF-8"]) := by
  intro h
  have hdiffer := LocaleMenus.displaysDiffer (by decide) h
  exact absurd (hdiffer "en_US.utf8" (by decide) "en_US.UTF-8" (by decide) (by decide) (by decide)
    (by decide)) (by decide)

end OpenCattus
