import OpenCattus.Questionnaire.Network

/-!
# Host names

The validators of the head node and the form for its names. A validator returns a
`std::expected<std::string_view, std::string>`; a `std::string` that it returns becomes the view,
and so a value: the errors are never errors.

`validators_exact_iff` says for which texts the validators and the form do what they are for.
-/

namespace OpenCattus

open Foundations Foundations.Text Foundations.Inet Program Dialog

/-! ## The validators -/

/-- A view of a text; a view of a temporary text outlives it. -/
inductive StringView where
  | of (text : String)
  | dangling
  deriving DecidableEq, Repr

namespace Server

def isLetterOrDigit (c : Char) : Bool := c.isAlpha || c.isDigit

def isHostnameChar (c : Char) : Bool := isLetterOrDigit c || c == '-'

/-- Three of the checks throw a text, the last one returns it. -/
def validateHostname (hostname : String) : Result (Except String StringView) :=
  if 63 < hostname.utf8ByteSize then
    .error ⟨.stdString, "Hostname cannot be bigger than 63 characters"⟩
  else if hostname.toList.head? = some '-' ∨ hostname.toList.getLast? = some '-' then
    .error ⟨.stdString, "Invalid hostname"⟩
  else if hostname ≠ "" ∧ hostname.toList.all Char.isDigit then
    .error ⟨.stdString, "Hostname cannot contain only digits"⟩
  -- "Hostname can only have alphanumerics"
  else if ¬ (hostname ≠ "" ∧ hostname.toList.all isHostnameChar) then .ok (.ok .dangling)
  else .ok (.ok (.of hostname))

/-- The hyphen is escaped twice, so that a backslash is accepted. -/
def isInnerChar (c : Char) : Bool := isLetterOrDigit c || c == '\\' || c == '-'

/-- `[a-zA-Z0-9](?:[a-zA-Z0-9\\-]*[a-zA-Z0-9])?` -/
def matchesLabel (label : List Char) : Bool :=
  label.head?.any isLetterOrDigit && label.getLast?.any isLetterOrDigit && label.all isInnerChar

def isLabelDot (c : Char) : Bool := c == '.'

def labels (fqdn : String) : List (List Char) := splitEach isLabelDot fqdn.toList

def validateFQDN (fqdn : String) : Except String StringView :=
  -- "FQDN cannot be bigger than 255 characters"
  if 255 < fqdn.utf8ByteSize then .ok .dangling
  -- "Invalid FQDN format"
  else if ¬ (2 ≤ (labels fqdn).length ∧ (labels fqdn).all matchesLabel) then .ok .dangling
  else .ok (.of fqdn)

end Server

/-- One round of the form. The model keeps what was typed. -/
def hostIdRound (answers : Vector String 2) (model : Cluster) :
    Except Exception (Option Unit) × Cluster :=
  let model := (model.setHostname answers[0]).setDomainName answers[1]
  match Server.validateHostname model.headnode.hostname with
  | .error e => (.error e, model)
  | .ok hostnameValidation =>
    let fqdnValidation := Server.validateFQDN model.headnode.fqdn
    if hostnameValidation.isOk && fqdnValidation.isOk then (.ok (some ()), model)
    else (.ok none, model)

def presenterHostId : Presenter Unit := ask 2 hostIdRound

/-! ## Legal names -/

/-- Up to 63 letters, digits or hyphens, no hyphen at either end, and not only digits. -/
structure LegalHostname (hostname : String) : Prop where
  ne_empty : hostname ≠ ""
  length : hostname.length ≤ 63
  chars : ∀ c ∈ hostname.toList, c.isAlpha = true ∨ c.isDigit = true ∨ c = '-'
  begins : hostname.toList.head? ≠ some '-'
  ends : hostname.toList.getLast? ≠ some '-'
  digits : ∃ c ∈ hostname.toList, c.isDigit = false

/-- Letters, digits and inner hyphens. -/
structure LegalLabel (label : List Char) : Prop where
  ne_nil : label ≠ []
  chars : ∀ c ∈ label, c.isAlpha = true ∨ c.isDigit = true ∨ c = '-'
  begins : label.head? ≠ some '-'
  ends : label.getLast? ≠ some '-'

/-- Up to 255 characters, in at least two labels. -/
structure LegalFQDN (fqdn : String) : Prop where
  length : fqdn.length ≤ 255
  two : 2 ≤ (Server.labels fqdn).length
  labels : ∀ label ∈ Server.labels fqdn, LegalLabel label

/-- An error for the names that are not legal, and the name for the others. -/
structure ExactFor (Legal : Prop) (name : String) (result : Result (Except String StringView)) :
    Prop where
  returns : ∃ validation, result = .ok validation
  refused : ∀ validation, result = .ok validation →
    ((∃ message, validation = .error message) ↔ ¬ Legal)
  kept : ∀ view, result = .ok (.ok view) → view = .of name

def LegalNames (model : Cluster) : Prop :=
  LegalHostname model.headnode.hostname ∧ LegalFQDN model.headnode.fqdn

/-- The first thing that is typed are a hostname and a domain name that are legal together. -/
def TypedLegal (s : Session Cluster) : Prop :=
  ∃ hostname domainName rest, s.script = .fields [hostname, domainName] :: rest ∧
    LegalHostname hostname ∧ LegalFQDN (hostname ++ "." ++ domainName)

/-! ## The validators on legal names -/

theorem isLetterOrDigit_of_ne_hyphen {c : Char}
    (h : c.isAlpha = true ∨ c.isDigit = true ∨ c = '-') (hne : c ≠ '-') :
    Server.isLetterOrDigit c = true := by
  unfold Server.isLetterOrDigit
  rcases h with h | h | h
  · rw [h, Bool.true_or]
  · rw [h, Bool.or_true]
  · exact absurd h hne

/-- A legal character has one byte. -/
theorem ascii_of_legal {c : Char} (h : c.isAlpha = true ∨ c.isDigit = true ∨ c = '-') :
    c.toNat ≤ 127 := by
  rcases h with h | h | rfl
  · change (decide (c.val ≥ 'A'.val ∧ c.val ≤ 'Z'.val) ||
      (decide (c.val ≥ 'a'.val) && decide (c.val ≤ 'z'.val))) = true at h
    simp only [Bool.or_eq_true, Bool.and_eq_true, decide_eq_true_eq, ge_iff_le,
      UInt32.le_iff_toNat_le] at h
    rcases h with h | h
    · exact Nat.le_trans h.2 (by decide)
    · exact Nat.le_trans h.2 (by decide)
  · simp only [Char.isDigit, Bool.and_eq_true, decide_eq_true_eq, ge_iff_le,
      UInt32.le_iff_toNat_le] at h
    exact Nat.le_trans h.2 (by decide)
  · decide

theorem validateHostname_of_legal {hostname : String} (h : LegalHostname hostname) :
    Server.validateHostname hostname = .ok (.ok (.of hostname)) := by
  have hdigits : ¬ (hostname ≠ "" ∧ hostname.toList.all Char.isDigit = true) := by
    rintro ⟨-, hall⟩
    obtain ⟨c, hc, hdigit⟩ := h.digits
    rw [List.all_eq_true.mp hall c hc] at hdigit
    cases hdigit
  have hchars : hostname.toList.all Server.isHostnameChar = true := by
    rw [List.all_eq_true]
    intro c hc
    rcases h.chars c hc with hc | hc | hc <;>
      simp [Server.isHostnameChar, Server.isLetterOrDigit, hc]
  have hsize : hostname.utf8ByteSize ≤ 63 := by
    rw [utf8ByteSize_of_ascii fun c hc => ascii_of_legal (h.chars c hc)]
    exact h.length
  unfold Server.validateHostname
  rw [if_neg (not_lt.mpr hsize), if_neg (not_or.mpr ⟨h.begins, h.ends⟩), if_neg hdigits,
    if_neg (not_not.mpr ⟨h.ne_empty, hchars⟩)]

/-- What is returned is a value. -/
theorem validateHostname_eq_ok {hostname : String} {validation : Except String StringView}
    (h : Server.validateHostname hostname = .ok validation) : ∃ view, validation = .ok view := by
  unfold Server.validateHostname at h
  split at h
  · cases h
  · split at h
    · cases h
    · split at h
      · cases h
      · split at h
        · exact ⟨_, (Except.ok.inj h).symm⟩
        · exact ⟨_, (Except.ok.inj h).symm⟩

theorem validateFQDN_eq_ok (fqdn : String) : ∃ view, Server.validateFQDN fqdn = .ok view := by
  unfold Server.validateFQDN
  split
  · exact ⟨_, rfl⟩
  · split
    · exact ⟨_, rfl⟩
    · exact ⟨_, rfl⟩

theorem matchesLabel_of_legal {label : List Char} (h : LegalLabel label) :
    Server.matchesLabel label = true := by
  have hends : ∀ c, label.head? = some c ∨ label.getLast? = some c →
      Server.isLetterOrDigit c = true := by
    intro c hc
    have hmem : c ∈ label := by
      rcases hc with hc | hc
      · exact List.mem_of_mem_head? hc
      · exact List.mem_of_getLast? hc
    refine isLetterOrDigit_of_ne_hyphen (h.chars c hmem) ?_
    rintro rfl
    rcases hc with hc | hc
    · exact h.begins hc
    · exact h.ends hc
  have hall : label.all Server.isInnerChar = true := by
    rw [List.all_eq_true]
    intro c hc
    rcases h.chars c hc with hc | hc | hc <;>
      simp [Server.isInnerChar, Server.isLetterOrDigit, hc]
  unfold Server.matchesLabel
  obtain ⟨first, rest, rfl⟩ := List.exists_cons_of_ne_nil h.ne_nil
  have hlast := List.getLast?_eq_getLast_of_ne_nil (l := first :: rest) h.ne_nil
  rw [List.head?_cons, hlast, Option.any_some, Option.any_some, hends first (.inl rfl),
    hends _ (.inr hlast), hall]
  rfl

theorem validateFQDN_of_legal {fqdn : String} (h : LegalFQDN fqdn) :
    Server.validateFQDN fqdn = .ok (.of fqdn) := by
  have hlabels : (Server.labels fqdn).all Server.matchesLabel = true :=
    List.all_eq_true.mpr fun label hlabel => matchesLabel_of_legal (h.labels label hlabel)
  have hascii : ∀ c ∈ fqdn.toList, c.toNat ≤ 127 := by
    intro c hc
    by_cases hdot : Server.isLabelDot c = true
    · obtain rfl : c = '.' := by simpa [Server.isLabelDot] using hdot
      decide
    · obtain ⟨label, hlabel, hcl⟩ :=
        @exists_mem_splitEach Server.isLabelDot _ _ hc (by simpa using hdot)
      exact ascii_of_legal ((h.labels label hlabel).chars c hcl)
  have hsize : fqdn.utf8ByteSize ≤ 255 := by
    rw [utf8ByteSize_of_ascii hascii]
    exact h.length
  unfold Server.validateFQDN
  rw [if_neg (not_lt.mpr hsize), if_neg (not_not.mpr ⟨h.two, hlabels⟩)]

/-! ## The texts that the validators are exact for -/

/-- A result that is a value whenever there is one: exact for the legal names only. -/
theorem exactFor_iff {Legal : Prop} {name : String} {result : Result (Except String StringView)}
    (hvalue : ∀ validation, result = .ok validation → ∃ view, validation = .ok view)
    (hlegal : Legal → result = .ok (.ok (.of name))) : ExactFor Legal name result ↔ Legal := by
  constructor
  · intro h
    by_contra hnot
    obtain ⟨validation, hresult⟩ := h.returns
    obtain ⟨message, hmessage⟩ := (h.refused validation hresult).mpr hnot
    obtain ⟨view, hview⟩ := hvalue validation hresult
    rw [hview] at hmessage
    cases hmessage
  · intro h
    have hresult := hlegal h
    refine ⟨⟨_, hresult⟩, ?_, ?_⟩
    · intro validation hvalidation
      rw [hresult] at hvalidation
      cases hvalidation
      refine ⟨?_, fun hnot => absurd h hnot⟩
      rintro ⟨message, hmessage⟩
      cases hmessage
    · intro view hview
      rw [hresult] at hview
      cases hview
      rfl

/-! ## The form -/

theorem fieldsOf_two {answer : Answer} {values : Vector String 2}
    (h : fieldsOf 2 answer = some values) :
    ∃ first second, answer = .fields [first, second] ∧ values = #v[first, second] := by
  unfold fieldsOf at h
  split at h
  · rename_i typed
    split at h
    · rename_i hlength
      obtain ⟨first, second, rfl⟩ := List.length_eq_two.mp hlength
      exact ⟨first, second, rfl, (Option.some.inj h).symm⟩
    · cases h
  · cases h

/-- No round is repeated: a round throws, or it is the last one. -/
theorem hostIdRound_ne_none {answers : Vector String 2} {model : Cluster} :
    (hostIdRound answers model).1 ≠ .ok none := by
  unfold hostIdRound
  dsimp only
  split
  · exact nofun
  · rename_i validation hvalidation
    obtain ⟨view, rfl⟩ := validateHostname_eq_ok hvalidation
    obtain ⟨view', hview'⟩ := validateFQDN_eq_ok
      ((model.setHostname answers[0]).setDomainName answers[1]).headnode.fqdn
    rw [hview']
    exact nofun

theorem hostIdRound_model {answers : Vector String 2} {model : Cluster} :
    (hostIdRound answers model).2 = (model.setHostname answers[0]).setDomainName answers[1] := by
  unfold hostIdRound
  dsimp only
  split
  · rfl
  · split
    · rfl
    · rfl

/-- The step takes one form: the first values that are typed stay. -/
theorem returns_presenterHostId {s s' : Session Cluster} (h : Returns presenterHostId s () s') :
    ∃ hostname domainName rest, s.script = .fields [hostname, domainName] :: rest ∧
      s'.model = (s.model.setHostname hostname).setDomainName domainName := by
  obtain ⟨model, script⟩ := s
  replace h : ask.go 2 hostIdRound model script = (.ok (), s') := h
  unfold ask.go at h
  split at h
  · cases h
  · cases h
  · cases h
  · rename_i answer rest _ _
    split at h
    · cases h
    · rename_i values hvalues
      obtain ⟨hostname, domainName, rfl, rfl⟩ := fieldsOf_two hvalues
      refine ⟨hostname, domainName, rest, rfl, ?_⟩
      have hmodel := @hostIdRound_model #v[hostname, domainName] model
      split at h
      · rename_i model' hround
        rw [hround] at hmodel
        cases h
        exact hmodel
      · rename_i model' hround
        exact absurd (congrArg Prod.fst hround) hostIdRound_ne_none
      · cases h

theorem legalNames_set {model : Cluster} {hostname domainName : String} :
    LegalNames ((model.setHostname hostname).setDomainName domainName) ↔
      LegalHostname hostname ∧ LegalFQDN (hostname ++ "." ++ domainName) := Iff.rfl

theorem legalNames_iff {s s' : Session Cluster} (h : Returns presenterHostId s () s') :
    LegalNames s'.model ↔ TypedLegal s := by
  obtain ⟨hostname, domainName, rest, hscript, hmodel⟩ := returns_presenterHostId h
  rw [hmodel, legalNames_set]
  constructor
  · intro hlegal
    exact ⟨hostname, domainName, rest, hscript, hlegal⟩
  · rintro ⟨hostname', domainName', rest', hscript', hlegal⟩
    rw [hscript] at hscript'
    obtain ⟨rfl, rfl⟩ : hostname = hostname' ∧ domainName = domainName' := by
      simpa using (List.cons.inj hscript').1
    exact hlegal

/-- The validators do what they are for on the legal names only: an illegal one is thrown, or is
taken for a name. The form leaves legal names when they are the first ones that are typed. -/
theorem validators_exact_iff (hostname fqdn : String) (s s' : Session Cluster) :
    (ExactFor (LegalHostname hostname) hostname (Server.validateHostname hostname) ↔
      LegalHostname hostname) ∧
    (ExactFor (LegalFQDN fqdn) fqdn (.ok (Server.validateFQDN fqdn)) ↔ LegalFQDN fqdn) ∧
    (Returns presenterHostId s () s' → (LegalNames s'.model ↔ TypedLegal s)) := by
  refine ⟨?_, ?_, legalNames_iff⟩
  · exact exactFor_iff (fun _ => validateHostname_eq_ok) validateHostname_of_legal
  · refine exactFor_iff ?_ fun h => congrArg Except.ok (validateFQDN_of_legal h)
    intro validation hvalidation
    cases hvalidation
    exact validateFQDN_eq_ok fqdn

/-- A head node with its first names. -/
def unnamedModel : Cluster where
  headnode :=
    { hostname := "localhost"
      fqdn := "localhost.localdomain"
      os := OS.ofPlatform .Rocky .el9 5 .x86_64 }

theorem legalChars_of_all {cs : List Char} (h : cs.all Server.isHostnameChar = true) :
    ∀ c ∈ cs, c.isAlpha = true ∨ c.isDigit = true ∨ c = '-' := by
  intro c hc
  have hchar := List.all_eq_true.mp h c hc
  simpa [Server.isHostnameChar, Server.isLetterOrDigit, or_assoc] using hchar

theorem legalHostname_head : LegalHostname "head" where
  ne_empty := by decide
  length := by decide
  chars := legalChars_of_all (by decide)
  begins := by decide
  ends := by decide
  digits := ⟨'h', by decide, by decide⟩

theorem legalFQDN_head : LegalFQDN "head.cluster.com" where
  length := by decide
  two := by decide
  labels := by
    have hlabels : Server.labels "head.cluster.com" =
        ["head".toList, "cluster".toList, "com".toList] := by
      decide
    rw [hlabels, List.forall_mem_cons, List.forall_mem_cons, List.forall_mem_singleton]
    refine ⟨?_, ?_, ?_⟩
    · exact ⟨by decide, legalChars_of_all (by decide), by decide, by decide⟩
    · exact ⟨by decide, legalChars_of_all (by decide), by decide, by decide⟩
    · exact ⟨by decide, legalChars_of_all (by decide), by decide, by decide⟩

theorem validators_exact_head :
    ExactFor (LegalHostname "head") "head" (Server.validateHostname "head") ∧
    ∃ s', Returns presenterHostId ⟨unnamedModel, [.fields ["head", "cluster.com"]]⟩ () s' ∧
      LegalNames s'.model := by
  have hreturns := returns_of_fst (x := presenterHostId) (a := ())
    (s := ⟨unnamedModel, [.fields ["head", "cluster.com"]]⟩) (by decide)
  obtain ⟨hhostname, -, hform⟩ := validators_exact_iff "head" "head.cluster.com"
    ⟨unnamedModel, [.fields ["head", "cluster.com"]]⟩ _
  refine ⟨hhostname.mpr legalHostname_head, _, hreturns, (hform hreturns).mpr ?_⟩
  exact ⟨"head", "cluster.com", [], rfl, legalHostname_head, legalFQDN_head⟩

/-- An underscore is no error, a hyphen at the start is thrown, and the form takes the names with
the underscore. -/
theorem underscore_hostname_accepted :
    ¬ ExactFor (LegalHostname "a_b") "a_b" (Server.validateHostname "a_b") ∧
    ¬ ExactFor (LegalHostname "-a") "-a" (Server.validateHostname "-a") ∧
    ∃ s', Returns presenterHostId ⟨unnamedModel, [.fields ["a_b", "cluster.com"]]⟩ () s' ∧
      ¬ LegalNames s'.model := by
  have hillegal : ¬ LegalHostname "a_b" := by
    intro h
    have hchar := h.chars '_' (by decide)
    revert hchar
    decide
  refine ⟨?_, ?_, _, returns_of_fst (by decide), ?_⟩
  · intro h
    have hdangling : Server.validateHostname "a_b" = .ok (.ok .dangling) := by decide
    exact StringView.noConfusion (h.kept .dangling hdangling)
  · rintro ⟨⟨validation, hvalidation⟩, -, -⟩
    have hthrown : Server.validateHostname "-a" = .error ⟨.stdString, "Invalid hostname"⟩ := by
      decide
    rw [hthrown] at hvalidation
    cases hvalidation
  · intro h
    have hname : (presenterHostId
        ⟨unnamedModel, [.fields ["a_b", "cluster.com"]]⟩).2.model.headnode.hostname = "a_b" := by
      decide
    have hlegal := h.1
    rw [hname] at hlegal
    exact hillegal hlegal

end OpenCattus
