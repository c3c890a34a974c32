import Mathlib
import ModelGate.Net.SocketAddress

/-!
# The texts of addresses

The readers of addresses take characters from the front of a text.  `Takes` says which ones, and how
many colons are among them: a version 4 address has none (`takes_of_readV4?`), and a version 6
address has two or more (`takes_of_readV6?`).
-/

namespace ModelGate.Net

/-- Characters of addresses: hexadecimal digits, colons and points. -/
def IsAddressChar (c : Char) : Prop :=
  (digit? 16 c).isSome = true ∨ c = ':' ∨ c = '.'

instance : DecidablePred IsAddressChar := fun c =>
  inferInstanceAs (Decidable ((digit? 16 c).isSome = true ∨ c = ':' ∨ c = '.'))

/-- The front of a text is taken; it has characters of addresses only, and so many colons. -/
def Takes (colons : Nat) (cs rest : List Char) : Prop :=
  ∃ taken, cs = taken ++ rest ∧ (∀ c ∈ taken, IsAddressChar c) ∧ taken.count ':' = colons

variable {cs rest rest' : List Char} {m n base bound : Nat} {most : Option Nat} {zeros first : Bool}

theorem Takes.refl (cs : List Char) : Takes 0 cs cs :=
  ⟨[], rfl, nofun, rfl⟩

theorem Takes.trans (h : Takes m cs rest) (h' : Takes n rest rest') : Takes (m + n) cs rest' := by
  obtain ⟨taken, rfl, hchars, rfl⟩ := h
  obtain ⟨taken', rfl, hchars', rfl⟩ := h'
  refine ⟨taken ++ taken', by rw [List.append_assoc], ?_, List.count_append⟩
  intro c hc
  exact (List.mem_append.1 hc).elim (hchars c) (hchars' c)

/-! ## Numbers and separators -/

theorem isSome_digit?_of_le {c : Char} (hbase : base ≤ 16) (h : (digit? base c).isSome = true) :
    (digit? 16 c).isSome = true := by
  unfold digit? at h ⊢
  dsimp only at h ⊢
  generalize (if '0' ≤ c && c ≤ '9' then _ else _ : Nat) = value at h ⊢
  by_cases hvalue : value < base
  · rw [if_pos (by omega)]
    rfl
  · rw [if_neg hvalue] at h
    cases h

theorem digit?_colon (hbase : base ≤ 16) : digit? base ':' = none := by
  unfold digit?
  exact if_neg (Nat.not_lt.2 hbase)

theorem takes_of_readNumber? (hbase : base ≤ 16)
    (h : readNumber? base bound most zeros cs = some (n, rest)) : Takes 0 cs rest := by
  unfold readNumber? at h
  dsimp only at h
  split_ifs at h
  cases h
  refine ⟨cs.takeWhile fun c => (digit? base c).isSome, ?_, ?_, ?_⟩
  · exact (List.prefix_iff_eq_append.1 (List.takeWhile_prefix _)).symm
  · intro c hc
    exact Or.inl (isSome_digit?_of_le hbase
      (List.mem_takeWhile_imp (p := fun c => (digit? base c).isSome) hc))
  · refine List.count_eq_zero.2 fun hcolon => ?_
    have hdigit := List.mem_takeWhile_imp (p := fun c => (digit? base c).isSome) hcolon
    rw [digit?_colon hbase] at hdigit
    cases hdigit

theorem eq_cons_of_readChar? {x : Char} (h : readChar? x cs = some rest) : cs = x :: rest := by
  unfold readChar? at h
  split at h
  · split_ifs at h with hx
    rw [eq_of_beq hx, Option.some.inj h]
  · cases h

theorem takes_of_readPoint? (h : readChar? '.' cs = some rest) : Takes 0 cs rest :=
  ⟨['.'], eq_cons_of_readChar? h, by simp [IsAddressChar], by decide⟩

theorem takes_of_readColon? (h : readChar? ':' cs = some rest) : Takes 1 cs rest :=
  ⟨[':'], eq_cons_of_readChar? h, by simp [IsAddressChar], by decide⟩

theorem takes_of_readSeparator? (h : readSeparator? first cs = some rest) :
    Takes (if first then 0 else 1) cs rest := by
  unfold readSeparator? at h
  split_ifs at h ⊢
  · cases h
    exact .refl cs
  · exact takes_of_readColon? h

/-! ## Addresses -/

theorem takes_of_readV4? {octets : List Nat} (h : readV4? cs = some (octets, rest)) :
    Takes 0 cs rest := by
  have hten : 10 ≤ 16 := by decide
  unfold readV4? readOctet? at h
  simp only [bind, Option.bind_eq_some_iff, Prod.exists] at h
  obtain ⟨a, cs₁, ha, cs₂, hpoint, b, cs₃, hb, cs₄, hpoint', c, cs₅, hc, cs₆, hpoint'', d, cs₇, hd,
    hend⟩ := h
  cases hend
  have htwo := (takes_of_readNumber? hten ha).trans
    ((takes_of_readPoint? hpoint).trans (takes_of_readNumber? hten hb))
  have hfour := (takes_of_readPoint? hpoint').trans ((takes_of_readNumber? hten hc).trans
    ((takes_of_readPoint? hpoint'').trans (takes_of_readNumber? hten hd)))
  exact htwo.trans hfour

theorem takes_of_readEmbedded? {groups : List Nat}
    (h : readEmbedded? first cs = some (groups, rest)) :
    Takes (if first then 0 else 1) cs rest ∧ groups.length = 2 := by
  unfold readEmbedded? at h
  simp only [bind, Option.bind_eq_some_iff, Prod.exists] at h
  obtain ⟨behind, hseparator, octets, rest', hv4, hend⟩ := h
  split at hend
  · next heq =>
      cases heq
      cases hend
      exact ⟨(takes_of_readSeparator? hseparator).trans (takes_of_readV4? hv4), rfl⟩
  · cases hend

/-- Between the groups of a version 6 address there are colons, one for the two groups of a version
4 address. -/
theorem takes_of_readGroups (left : Nat) (first : Bool) (cs : List Char) :
    ∃ colons, Takes colons cs (readGroups left first cs).2.2 ∧
      (readGroups left first cs).1.length ≤ colons + 1 + if first then 1 else 0 := by
  induction left generalizing first cs with
  | zero => exact ⟨0, .refl cs, Nat.zero_le _⟩
  | succ left ih =>
      unfold readGroups
      split
      · next groups rest hembedded =>
          split_ifs at hembedded
          obtain ⟨htakes, hlength⟩ := takes_of_readEmbedded? hembedded
          refine ⟨_, htakes, ?_⟩
          dsimp only
          rw [hlength]
          split <;> omega
      · split
        · exact ⟨0, .refl cs, Nat.zero_le _⟩
        · next group rest hgroup =>
            rw [Option.bind_eq_some_iff] at hgroup
            obtain ⟨behind, hseparator, hnumber⟩ := hgroup
            obtain ⟨colons, htakes, hlength⟩ := ih false rest
            refine ⟨_, ((takes_of_readSeparator? hseparator).trans
              (takes_of_readNumber? (by decide) hnumber)).trans htakes, ?_⟩
            dsimp only
            rw [List.length_cons]
            simp only [Bool.false_eq_true, if_false] at hlength
            split <;> omega

theorem takes_of_readV6? {groups : List Nat} (h : readV6? cs = some (groups, rest)) :
    ∃ colons, 2 ≤ colons ∧ Takes colons cs rest := by
  unfold readV6? at h
  obtain ⟨colons, htakes, hlength⟩ := takes_of_readGroups 8 true cs
  generalize readGroups 8 true cs = read at h htakes hlength
  obtain ⟨head, embedded, behind⟩ := read
  dsimp only at h htakes hlength
  split_ifs at h with height hembedded
  · -- Eight groups have six colons between them, or more.
    cases h
    refine ⟨colons, ?_, htakes⟩
    rw [height] at hlength
    simp only [if_true] at hlength
    omega
  · cases h
  · -- There are two colons where groups are left out.
    simp only [bind, Option.bind_eq_some_iff] at h
    obtain ⟨second, hfirst, third, hsecond, hend⟩ := h
    obtain ⟨others, hothers, -⟩ := takes_of_readGroups (7 - head.length) true third
    cases hend
    refine ⟨_, ?_, (htakes.trans (takes_of_readColon? hfirst)).trans
      ((takes_of_readColon? hsecond).trans hothers)⟩
    omega

end ModelGate.Net
