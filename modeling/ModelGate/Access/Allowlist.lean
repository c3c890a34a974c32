import ModelGate.Json.Lexeme

/-!
# Allowlists

The tiers that may use a model, read from the text of an annotation on it: a JSON list of tier
names. No annotation, an empty one, null and the empty list allow every tier.
-/

namespace ModelGate.Access

open Json (Fault skipBlank readString readWord faultOfOther)

/-- The tiers that may use a model. -/
inductive AllowedTiers where
  | any
  | only (tiers : List String)
  deriving DecidableEq, Repr

namespace AllowedTiers

/-- Reads the string at the front of a text. -/
def readTier : List Char → Except Fault (String × List Char)
  | '"' :: rest =>
    match readString rest with
    | .ok (text, rest) => .ok (String.ofList text, rest)
    | .error fault => .error fault
  | cs => .error (faultOfOther cs)

theorem readString_length {cs rest text : List Char}
    (h : readString cs = .ok (text, rest)) : rest.length < cs.length := by
  fun_induction readString cs generalizing text rest with
  | case1 => simp at h
  | case2 cs r hp =>
    simp at h
    have := Json.readPiece_length hp
    simp only [← h.2]
    omega
  | case3 => simp at h
  | case4 cs c r hp t r' hr ih =>
    simp at h
    have := Json.readPiece_length hp
    have := ih hr
    simp only [← h.2]
    omega

theorem readTier_length {cs rest : List Char} {tier : String}
    (h : readTier cs = .ok (tier, rest)) : rest.length < cs.length := by
  unfold readTier at h
  split at h
  · split at h
    · next hs =>
      simp at h
      have := readString_length hs
      simp only [← h.2, List.length_cons]
      omega
    · simp at h
  · simp at h

/-- Reads the items of a list behind its first one, up to the closing bracket. -/
def readMore (cs : List Char) : Except Fault (List String × List Char) :=
  match _h : skipBlank cs with
  | [] => .error .ended
  | c :: tail =>
    if c = ']' then .ok ([], tail)
    else if c = ',' then
      match _h₂ : skipBlank tail with
      | [] => .error .ended
      | d :: item =>
        if d = ']' then .error .malformed
        else
          match _h₃ : readTier (d :: item) with
          | .error fault => .error fault
          | .ok (tier, rest) =>
            match readMore rest with
            | .error fault => .error fault
            | .ok (tiers, rest) => .ok (tier :: tiers, rest)
    else .error .malformed
termination_by cs.length
decreasing_by
  have h₁ := Json.skipBlank_length_le cs
  have h₂ := Json.skipBlank_length_le tail
  have h₃ := readTier_length _h₃
  rw [_h] at h₁
  rw [_h₂] at h₂
  simp only [List.length_cons] at h₁ h₂ h₃
  omega

/-- Reads the items of a list behind its opening bracket. -/
def readItems (cs : List Char) : Except Fault (List String × List Char) :=
  match skipBlank cs with
  | [] => .error .ended
  | c :: rest =>
    if c = ']' then .ok ([], rest)
    else do
      let (tier, rest) ← readTier (c :: rest)
      let (tiers, rest) ← readMore rest
      pure (tier :: tiers, rest)

/-- Reads null or a list of strings from the front of a text. -/
def readValue (cs : List Char) : Except Fault (List String × List Char) :=
  match skipBlank cs with
  | 'n' :: rest => return ([], ← readWord ['u', 'l', 'l'] rest)
  | '[' :: rest => readItems rest
  | cs => .error (faultOfOther cs)

/-- The allowlist that a list of tiers stands for. -/
def ofList : List String → AllowedTiers
  | [] => .any
  | tiers => .only tiers

def parse (text : String) : Except Fault AllowedTiers :=
  if text = "" then .ok .any
  else do
    let (tiers, rest) ← readValue text.toList
    if skipBlank rest = [] then pure (ofList tiers) else throw .malformed

/-- The allowlist of a model that may have no annotation. -/
def ofAnnotation (text : Option String) : Except Fault AllowedTiers :=
  text.elim (.ok .any) parse

/-- Whether a tier may use the model. -/
def permits (tier : String) : AllowedTiers → Bool
  | .any => true
  | .only tiers => tiers.contains tier

end AllowedTiers

end ModelGate.Access
