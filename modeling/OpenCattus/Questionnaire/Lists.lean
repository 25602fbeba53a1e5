import OpenCattus.Cluster.LinkCodec
import OpenCattus.Questionnaire.Interfaces
import OpenCattus.Session.Draft

/-!
# Lists of values

Lists are written with a comma and a blank between the values. Each reader takes both for
separators: the answerfile keeps an empty first or last piece of the text, the draft and the form
of the nameservers leave empty pieces out.

`list_codecs_inverse` says that every reader gives a list back whose values have no separator,
and how the readers differ on other texts.
-/

namespace OpenCattus

open Foundations Foundations.Text Foundations.Inet

/-- A value that the separators of a list leave whole. -/
structure IsListValue (value : String) : Prop where
  nonempty : value ≠ ""
  comma : ',' ∉ value.toList
  blank : ' ' ∉ value.toList

theorem IsListValue.clean {value : String} (h : IsListValue value) :
    ∀ c ∈ value.toList, isListSeparator c = false := by
  intro c hc
  have hcomma : c ≠ ',' := ne_of_mem_of_not_mem hc h.comma
  have hblank : c ≠ ' ' := ne_of_mem_of_not_mem hc h.blank
  simp [isListSeparator, hcomma, hblank]

theorem split_joinList {values : List String} (hne : values ≠ [])
    (h : ∀ value ∈ values, IsListValue value) : split isListSeparator (joinList values) = values :=
  respell_of_clean hne (fun value hvalue => (h value hvalue).clean)
    (fun value hvalue => (h value hvalue).nonempty)

theorem splitValues_joinList {values : List String} (hne : values ≠ [])
    (h : ∀ value ∈ values, IsListValue value) : splitValues (joinList values) = values := by
  rw [splitValues, split_joinList hne h, List.filter_eq_self]
  intro value hvalue
  exact decide_eq_true (h value hvalue).nonempty

section

variable [Inet6]

/-- The nameservers of a section are the pieces of the text. -/
theorem nameservers_of_loadNetwork {kf : KeyFile} {networkSection text : String} {r : AFNetwork}
    (h : loadNetwork kf networkSection = .ok r)
    (htext : kf.getStringOpt networkSection "nameservers" = .ok (some text)) :
    r.nameservers = some (split isListSeparator text) := by
  unfold loadNetwork at h
  simp only [except_bind_ok, htext, Except.ok.injEq, exists_eq_left'] at h
  obtain ⟨_, -, _, -, _, -, _, -, _, -, _, -, _, -, _, -, rfl⟩ := h
  rfl

/-! ## Nameservers in the form -/

/-- `parseNameservers` reads what the split of the draft leaves. -/
theorem parseNameservers_eq (raw : String) :
    parseNameservers raw = (splitValues raw).mapM Network.parseAddress := by
  rw [splitValues, filter_split]
  rfl

theorem isListValue_toText (address : Address) : IsListValue address.toText where
  nonempty := address.toText_ne_empty
  comma := fun h => (Address.toText_clean h).1 rfl
  blank := fun h => (Address.toText_clean h).2 rfl

theorem parseNameservers_formatNameservers (addresses : List Address) :
    parseNameservers (formatNameservers addresses) = .ok addresses := by
  rw [parseNameservers_eq]
  by_cases hne : addresses = []
  · subst hne
    rfl
  · have hvalues : ∀ value ∈ addresses.map Address.toText, IsListValue value := by
      intro value hvalue
      obtain ⟨address, -, rfl⟩ := List.mem_map.mp hvalue
      exact isListValue_toText address
    have hsplit := splitValues_joinList (by simpa using hne) hvalues
    rw [joinList] at hsplit
    rw [formatNameservers, hsplit, mapM_parseAddress_toText]

/-! ## The readers of lists -/

/-- Joining and reading are inverse: for the answerfile and the draft on every list that has a
value, for the nameservers of the form on every list. On every text the draft reads the pieces of
the split, with or without token compression, but for the empty ones. -/
theorem list_codecs_inverse :
    (∀ values : List String, values ≠ [] → (∀ value ∈ values, IsListValue value) →
      (∀ kf networkSection r, loadNetwork kf networkSection = .ok r →
        kf.getStringOpt networkSection "nameservers" = .ok (some (joinList values)) →
          r.nameservers = some values) ∧
        split isListSeparator (joinList values) = values ∧
          splitValues (joinList values) = values) ∧
      (∀ addresses : List Address, parseNameservers (formatNameservers addresses) = .ok addresses) ∧
        ∀ raw : String,
          splitValues raw = (split isListSeparator raw).filter (· ≠ "") ∧
            splitValues raw =
              ((splitEach isListSeparator raw.toList).filter (· ≠ [])).map String.ofList := by
  refine ⟨fun values hne hvalues => ⟨?_, split_joinList hne hvalues,
    splitValues_joinList hne hvalues⟩, parseNameservers_formatNameservers,
    fun raw => ⟨rfl, filter_split raw⟩⟩
  intro kf networkSection r hload htext
  rw [nameservers_of_loadNetwork hload htext, split_joinList hne hvalues]

end

end OpenCattus
