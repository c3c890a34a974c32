import Mathlib
import ModelGate.Http.Target
import ModelGate.Proofs.Net.AddressText

/-!
# The authority of a URL

Behind its scheme and two slashes a URL names an authority: a host, with a user in front of it and a
port behind it where these are given.  `HasAuthority` is that reading, by the generic grammar of
URLs.

A text that is put in front of a path as it stands is read back as the host if and only if it is a
host by the grammar (`hasAuthority_iff`).  Names and version 4 addresses are hosts.  A version 6
address is one only in brackets: without them the URL has no authority at all
(`not_hasAuthority_of_isVersion6`).
-/

namespace ModelGate.Net

/-! ## The grammar -/

/-- Characters that stand for themselves anywhere in a URL. -/
def IsUnreserved (c : Char) : Prop :=
  c.isAlphanum = true ∨ c ∈ ['-', '.', '_', '~']

/-- Characters that can set apart the pieces of a part of a URL. -/
def IsSubDelimiter (c : Char) : Prop :=
  c ∈ ['!', '$', '&', '\'', '(', ')', '*', '+', ',', ';', '=']

def IsNameChar (c : Char) : Prop :=
  IsUnreserved c ∨ IsSubDelimiter c

/-- A text of some plain characters, and of others as two hexadecimal digits behind a percent
sign. -/
inductive IsEncoded (plain : Char → Prop) : List Char → Prop
  | nil : IsEncoded plain []
  | plain {c : Char} {cs : List Char} (hc : plain c) (h : IsEncoded plain cs) :
      IsEncoded plain (c :: cs)
  | escaped {high low : Char} {cs : List Char} (hhigh : (digit? 16 high).isSome = true)
      (hlow : (digit? 16 low).isSome = true) (h : IsEncoded plain cs) :
      IsEncoded plain ('%' :: high :: low :: cs)

def IsVersion4 (cs : List Char) : Prop :=
  ∃ octets, readV4? cs = some (octets, [])

def IsVersion6 (cs : List Char) : Prop :=
  ∃ groups, readV6? cs = some (groups, [])

/-- A host is a name, which may be a version 4 address, or an address in brackets: of version 6, or
of a version to come that is named in front of it. -/
inductive IsHost : List Char → Prop
  | name {cs : List Char} (h : IsEncoded IsNameChar cs) : IsHost cs
  | version6 {cs : List Char} (h : IsVersion6 cs) : IsHost ('[' :: cs ++ [']'])
  | future {v : Char} {version cs : List Char} (hv : v = 'v' ∨ v = 'V')
      (hversion : version ≠ [] ∧ ∀ c ∈ version, (digit? 16 c).isSome = true)
      (hcs : cs ≠ [] ∧ ∀ c ∈ cs, IsNameChar c ∨ c = ':') :
      IsHost ('[' :: v :: version ++ '.' :: cs ++ [']'])

/-- The parts of an authority. -/
structure Authority where
  user : Option (List Char)
  host : List Char
  port : Option (List Char)
  deriving DecidableEq, Repr

namespace Authority

/-- How an authority is written. -/
def text (a : Authority) : List Char :=
  a.user.elim [] (· ++ ['@']) ++ a.host ++ a.port.elim [] (':' :: ·)

structure IsValid (a : Authority) : Prop where
  user : ∀ user, a.user = some user → IsEncoded (fun c => IsNameChar c ∨ c = ':') user
  host : IsHost a.host
  port : ∀ port, a.port = some port → ∀ c ∈ port, c.isDigit = true

end Authority

/-- A scheme begins with a letter. -/
inductive IsScheme : List Char → Prop
  | intro {c : Char} {cs : List Char} (hc : c.isAlpha = true)
      (hcs : ∀ c ∈ cs, c.isAlphanum = true ∨ c ∈ ['+', '-', '.']) : IsScheme (c :: cs)

/-- The authority that a URL names: what stands between the two slashes behind its scheme and the
next slash, question mark or number sign. -/
def HasAuthority (url : String) (a : Authority) : Prop :=
  ∃ scheme behind, url.toList = scheme ++ ':' :: '/' :: '/' :: behind ∧ IsScheme scheme ∧
    a.IsValid ∧ a.text = behind.takeWhile (!Http.endsAuthority ·)

/-! ## The characters of a host -/

variable {cs : List Char} {c : Char}

/-- The characters that a host can have. -/
def IsHostChar (c : Char) : Prop :=
  IsNameChar c ∨ c ∈ ['%', ':', '[', ']']

instance : DecidablePred IsNameChar := fun c =>
  inferInstanceAs (Decidable ((c.isAlphanum = true ∨ c ∈ ['-', '.', '_', '~']) ∨
    c ∈ ['!', '$', '&', '\'', '(', ')', '*', '+', ',', ';', '=']))

instance : DecidablePred IsHostChar := fun c =>
  inferInstanceAs (Decidable (IsNameChar c ∨ c ∈ ['%', ':', '[', ']']))

theorem isAlphanum_of_digit? (h : (digit? 16 c).isSome = true) : c.isAlphanum = true := by
  unfold digit? at h
  simp only [Char.isAlphanum, Char.isAlpha, Char.isUpper, Char.isLower, Char.isDigit,
    Bool.or_eq_true, Bool.and_eq_true, decide_eq_true_eq, ge_iff_le, Char.le_def,
    UInt32.le_iff_toNat_le] at h ⊢
  change (if (if 48 ≤ c.val.toNat ∧ c.val.toNat ≤ 57 then _
    else if 97 ≤ c.val.toNat ∧ c.val.toNat ≤ 102 then _
    else if 65 ≤ c.val.toNat ∧ c.val.toNat ≤ 70 then _ else 16) < 16
    then _ else _ : Option Nat).isSome = true at h
  change (((65 ≤ c.val.toNat ∧ c.val.toNat ≤ 90) ∨ (97 ≤ c.val.toNat ∧ c.val.toNat ≤ 122)) ∨
    (48 ≤ c.val.toNat ∧ c.val.toNat ≤ 57))
  split_ifs at h <;> first | omega | cases h

theorem isNameChar_of_digit? (h : (digit? 16 c).isSome = true) : IsNameChar c :=
  Or.inl (Or.inl (isAlphanum_of_digit? h))

theorem isHostChar_of_isAddressChar (h : IsAddressChar c) : IsHostChar c := by
  rcases h with hdigit | rfl | rfl
  · exact Or.inl (isNameChar_of_digit? hdigit)
  · decide
  · decide

theorem isNameChar_or_percent_of_mem (h : IsEncoded IsNameChar cs) (hc : c ∈ cs) :
    IsNameChar c ∨ c = '%' := by
  induction h with
  | nil => cases hc
  | plain hplain _ ih =>
      rcases List.mem_cons.1 hc with rfl | hrest
      · exact Or.inl hplain
      · exact ih hrest
  | escaped hhigh hlow _ ih =>
      simp only [List.mem_cons] at hc
      rcases hc with rfl | rfl | rfl | hrest
      · exact Or.inr rfl
      · exact Or.inl (isNameChar_of_digit? hhigh)
      · exact Or.inl (isNameChar_of_digit? hlow)
      · exact ih hrest

theorem isAddressChar_of_mem (h : IsVersion6 cs) (hc : c ∈ cs) : IsAddressChar c := by
  obtain ⟨groups, hread⟩ := h
  obtain ⟨colons, -, taken, htaken, hchars, -⟩ := takes_of_readV6? hread
  rw [List.append_nil] at htaken
  exact hchars c (htaken ▸ hc)

theorem two_le_count_colon (h : IsVersion6 cs) : 2 ≤ cs.count ':' := by
  obtain ⟨groups, hread⟩ := h
  obtain ⟨colons, htwo, taken, htaken, -, hcount⟩ := takes_of_readV6? hread
  rw [List.append_nil] at htaken
  rw [htaken, hcount]
  exact htwo

theorem isHostChar_of_mem (h : IsHost cs) (hc : c ∈ cs) : IsHostChar c := by
  cases h with
  | name h => exact (isNameChar_or_percent_of_mem h hc).imp_right (by rintro rfl; decide)
  | version6 h =>
      simp only [List.cons_append, List.mem_cons, List.mem_append, List.not_mem_nil, or_false] at hc
      rcases hc with rfl | haddress | rfl
      · decide
      · exact isHostChar_of_isAddressChar (isAddressChar_of_mem h haddress)
      · decide
  | future hv hversion hcs =>
      simp only [List.cons_append, List.append_assoc, List.mem_cons, List.mem_append,
        List.not_mem_nil, or_false] at hc
      rcases hc with rfl | rfl | hdigit | rfl | hother | rfl
      · decide
      · rcases hv with rfl | rfl <;> decide
      · exact Or.inl (isNameChar_of_digit? (hversion.2 c hdigit))
      · decide
      · exact (hcs.2 c hother).imp_right (by rintro rfl; decide)
      · decide

/-! ## Reading an authority back -/

theorem colon_notMem_of_isEncoded (h : IsEncoded IsNameChar cs) : ':' ∉ cs := by
  intro hcolon
  rcases isNameChar_or_percent_of_mem h hcolon with hname | hpercent
  · exact absurd hname (by decide)
  · exact absurd hpercent (by decide)

/-- No host ends in a port. -/
theorem IsHost.ne_append_port (h : IsHost cs) {front port : List Char}
    (hport : ∀ c ∈ port, c.isDigit = true) : cs ≠ front ++ ':' :: port := by
  -- What stands last in brackets is not a part of a port.
  have hbracket : ∀ inner, inner ++ [']'] ≠ front ++ ':' :: port := by
    intro inner heq
    have hlast := congrArg List.getLast? heq
    rw [List.getLast?_append_of_ne_nil _ (List.cons_ne_nil ':' port), List.getLast?_concat] at hlast
    rcases List.mem_cons.1 (List.mem_of_getLast? hlast.symm) with hcolon | hdigit
    · exact absurd hcolon (by decide)
    · exact absurd (hport _ hdigit) (by decide)
  cases h with
  | name h =>
      rintro rfl
      exact colon_notMem_of_isEncoded h (by simp)
  | version6 h => exact hbracket _
  | future hv hversion hcs => exact hbracket _

/-- A host alone is an authority, and cannot be read as another one. -/
theorem Authority.isValid_and_text_eq_iff {a : Authority} (h : IsHost cs) :
    a.IsValid ∧ a.text = cs ↔ a = ⟨none, cs, none⟩ := by
  constructor
  · rintro ⟨hvalid, rfl⟩
    obtain ⟨user, host, port⟩ := a
    cases user with
    | some user =>
        have hat : '@' ∈ text ⟨some user, host, port⟩ := by simp [text]
        exact absurd (isHostChar_of_mem h hat) (by decide)
    | none =>
        cases port with
        | some port =>
            have hne : text ⟨none, host, some port⟩ ≠ host ++ ':' :: port :=
              h.ne_append_port (hvalid.port port rfl)
            exact absurd (by simp [text]) hne
        | none => simp [text]
  · rintro rfl
    exact ⟨⟨nofun, h, nofun⟩, by simp [text]⟩

/-- A version 6 address alone is no authority: it is neither a name nor a name with a port. -/
theorem Authority.text_ne_of_isVersion6 {a : Authority} (ha : a.IsValid) (h : IsVersion6 cs) :
    a.text ≠ cs := by
  rintro rfl
  have hchars := fun c => isAddressChar_of_mem (c := c) h
  have hcolons := two_le_count_colon h
  obtain ⟨user, host, port⟩ := a
  cases user with
  | some user => exact absurd (hchars '@' (by simp [text])) (by decide)
  | none =>
      cases ha.host with
      | version6 h => exact absurd (hchars '[' (by simp [text])) (by decide)
      | future hv hversion hcs => exact absurd (hchars '[' (by simp [text])) (by decide)
      | name hname =>
          have hhost : host.count ':' = 0 := List.count_eq_zero.2 (colon_notMem_of_isEncoded hname)
          cases port with
          | none =>
              simp [text, hhost] at hcolons
          | some port =>
              have hport : port.count ':' = 0 := by
                refine List.count_eq_zero.2 fun hcolon => ?_
                exact absurd (ha.port port rfl ':' hcolon) (by decide)
              simp [text, hhost, hport] at hcolons

theorem IsScheme.dropWhile_append (h : IsScheme cs) (behind : List Char) :
    (cs ++ ':' :: behind).dropWhile (· != ':') = ':' :: behind := by
  have hcolon : ∀ c ∈ cs, (c != ':') = true := by
    intro c hc
    rw [bne_iff_ne]
    rintro rfl
    obtain ⟨hletter, hrest⟩ := h
    rcases List.mem_cons.1 hc with rfl | hmem
    · exact absurd hletter (by decide)
    · exact absurd (hrest ':' hmem) (by decide)
  rw [List.dropWhile_append_of_pos hcolon, List.dropWhile_cons_of_neg (by simp)]

theorem isScheme_https : IsScheme ['h', 't', 't', 'p', 's'] :=
  .intro (by decide) (by simp [Char.isAlphanum, Char.isAlpha, Char.isLower])

/-- The scheme of a URL ends at the first colon, so that no other one can be read. -/
theorem hasAuthority_iff {url : String} {a : Authority} (hscheme : IsScheme cs)
    {behind : List Char} (h : url.toList = cs ++ ':' :: '/' :: '/' :: behind) :
    HasAuthority url a ↔ a.IsValid ∧ a.text = behind.takeWhile (!Http.endsAuthority ·) := by
  constructor
  · rintro ⟨other, behind', hurl, hother, hvalid, htext⟩
    have hdrop := congrArg (List.dropWhile (· != ':')) (h.symm.trans hurl)
    rw [hscheme.dropWhile_append, hother.dropWhile_append] at hdrop
    cases hdrop
    exact ⟨hvalid, htext⟩
  · rintro ⟨hvalid, htext⟩
    exact ⟨cs, behind, h, hscheme, hvalid, htext⟩

/-- A host and a path below a scheme. -/
def below (host path : String) : String :=
  "https://" ++ host ++ "/" ++ path

theorem toList_below (host path : String) :
    (below host path).toList =
      ['h', 't', 't', 'p', 's'] ++ ':' :: '/' :: '/' :: (host.toList ++ '/' :: path.toList) := by
  simp [below]

/-- A text without the characters that end an authority is read as a whole. -/
theorem takeWhile_authority {path : List Char} (h : ∀ c ∈ cs, IsHostChar c) :
    (cs ++ '/' :: path).takeWhile (!Http.endsAuthority ·) = cs := by
  have hends : ∀ c ∈ cs, (!Http.endsAuthority c) = true := by
    intro c hc
    have hchar := h c hc
    unfold Http.endsAuthority
    simp only [Bool.not_eq_true', Bool.or_eq_false_iff, beq_eq_false_iff_ne]
    refine ⟨⟨?_, ?_⟩, ?_⟩ <;>
      · rintro rfl
        exact absurd hchar (by decide)
  rw [List.takeWhile_append_of_pos hends, List.takeWhile_cons_of_neg (by decide), List.append_nil]

/-- The URL names a text as the host, and nothing else can be read as its authority. -/
def ReadsBack (url host : String) : Prop :=
  ∀ a, HasAuthority url a ↔ a = ⟨none, host.toList, none⟩

/-- A text in front of a path is read back if and only if it is a host. -/
theorem readsBack_iff (host path : String) :
    ReadsBack (below host path) host ↔ IsHost host.toList := by
  constructor
  · intro h
    obtain ⟨-, -, -, -, hvalid, -⟩ := (h _).2 rfl
    exact hvalid.host
  · intro h a
    rw [hasAuthority_iff isScheme_https (toList_below host path),
      takeWhile_authority fun c => isHostChar_of_mem h]
    exact Authority.isValid_and_text_eq_iff h

theorem not_hasAuthority_of_isVersion6 {host : String} (h : IsVersion6 host.toList) (path : String)
    (a : Authority) : ¬ HasAuthority (below host path) a := by
  rw [hasAuthority_iff isScheme_https (toList_below host path),
    takeWhile_authority fun c hc => isHostChar_of_isAddressChar (isAddressChar_of_mem h hc)]
  rintro ⟨hvalid, htext⟩
  exact Authority.text_ne_of_isVersion6 hvalid h htext

/-! ## Which texts are hosts -/

/-- Names of letters, digits, hyphens and points are hosts. -/
theorem isHost_of_label (h : ∀ c ∈ cs, c.isAlphanum = true ∨ c = '-' ∨ c = '.') : IsHost cs := by
  refine .name ?_
  induction cs with
  | nil => exact .nil
  | cons c cs ih =>
      refine .plain (Or.inl ?_) (ih fun c hc => h c (List.mem_cons_of_mem _ hc))
      exact (h c List.mem_cons_self).imp_right (by rintro (rfl | rfl) <;> decide)

theorem isHost_of_isVersion4 (h : IsVersion4 cs) : IsHost cs := by
  obtain ⟨octets, hread⟩ := h
  obtain ⟨taken, htaken, hchars, hcount⟩ := takes_of_readV4? hread
  rw [List.append_nil] at htaken
  subst htaken
  refine isHost_of_label fun c hc => ?_
  rcases hchars c hc with hdigit | rfl | rfl
  · exact Or.inl (isAlphanum_of_digit? hdigit)
  · exact absurd hc (List.count_eq_zero.1 hcount)
  · exact Or.inr (Or.inr rfl)

/-- What is read of a URL that has a text in the place of its host. -/
structure NamesHost (url host : String) : Prop where
  readsBack_iff : ReadsBack url host ↔ IsHost host.toList
  label : (∀ c ∈ host.toList, c.isAlphanum = true ∨ c = '-' ∨ c = '.') → ReadsBack url host
  version4 : IsVersion4 host.toList → ReadsBack url host
  /-- Only in brackets a version 6 address is a host. -/
  version6 : IsVersion6 host.toList → ∀ a, ¬ HasAuthority url a
  bracketed : ∀ address, host = "[" ++ address ++ "]" → IsVersion6 address.toList →
    ReadsBack url host

theorem namesHost_below (host path : String) : NamesHost (below host path) host where
  readsBack_iff := readsBack_iff host path
  label := fun h => (readsBack_iff host path).2 (isHost_of_label h)
  version4 := fun h => (readsBack_iff host path).2 (isHost_of_isVersion4 h)
  version6 := fun h => not_hasAuthority_of_isVersion6 h path
  bracketed := by
    rintro address rfl h
    refine (readsBack_iff _ path).2 ?_
    rw [show ("[" ++ address ++ "]").toList = '[' :: address.toList ++ [']'] by simp]
    exact .version6 h

end ModelGate.Net
