/-
The documented conversion: the longest initial sequence of the expected form, its number when the target type has it, else the
end of the type. The code meets it unless a hex mark has no digit after it, or the 64-bit number wraps without becoming smaller.
-/
import Occ.Ppc405.Strtox

namespace Occ.Ppc405

open Numeral

/-! ## The documented form -/

/-- The digits and the letters of the alphabet, which have the values 0 to 35. -/
def digitValue (c : CChar) : Option Nat :=
  if 48 ≤ c.toNat ∧ c.toNat ≤ 57 then some (c.toNat - 48)
  else if 97 ≤ c.toNat ∧ c.toNat ≤ 122 then some (c.toNat - 87)
  else if 65 ≤ c.toNat ∧ c.toNat ≤ 90 then some (c.toNat - 55)
  else none

/-- Digits of a radix with their values. -/
def IsDigits (r : Nat) : List CChar → List Nat → Prop := List.Forall₂ fun c d => digitValue c = some d ∧ d < r

/-- What follows the sign, with its radix and its digits: a decimal, octal or hexadecimal constant for base 0, else a sequence of
digits of the base, with an optional mark for base 16. -/
inductive Body (base : Nat) : List CChar → Nat → List Nat → Prop
  | decimal {c : CChar} {cs : List CChar} {ds : List Nat} (hbase : base = 0) (hc : c ≠ ch '0') (hds : IsDigits 10 (c :: cs) ds) :
      Body base (c :: cs) 10 ds
  | octal {cs : List CChar} {ds : List Nat} (hbase : base = 0) (hds : IsDigits 8 (ch '0' :: cs) ds) :
      Body base (ch '0' :: cs) 8 ds
  | hex {x : CChar} {cs : List CChar} {ds : List Nat} (hbase : base = 0 ∨ base = 16) (hx : x = ch 'x' ∨ x = ch 'X')
      (hcs : cs ≠ []) (hds : IsDigits 16 cs ds) : Body base (ch '0' :: x :: cs) 16 ds
  | plain {cs : List CChar} {ds : List Nat} (hbase : 2 ≤ base) (hcs : cs ≠ []) (hds : IsDigits base cs ds) :
      Body base cs base ds

/-- The subject sequence: whether it begins with a minus sign, its radix and its digits. -/
inductive Subject (base : Nat) : List CChar → Bool → Nat → List Nat → Prop
  | bare {cs : List CChar} {r : Nat} {ds : List Nat} (hbody : Body base cs r ds) : Subject base cs false r ds
  | plus {cs : List CChar} {r : Nat} {ds : List Nat} (hbody : Body base cs r ds) : Subject base (ch '+' :: cs) false r ds
  | minus {cs : List CChar} {r : Nat} {ds : List Nat} (hbody : Body base cs r ds) : Subject base (ch '-' :: cs) true r ds

/-- The longest initial subsequence that is a subject sequence. -/
structure Longest (base : Nat) (s p : List CChar) (neg : Bool) (r : Nat) (ds : List Nat) : Prop where
  subject : Subject base p neg r ds
  initial : p <+: s
  longest : ∀ p' neg' r' ds', Subject base p' neg' r' ds' → p' <+: s → p'.length ≤ p.length

section
variable (w : Nat) (signed neg : Bool)

/-- The number, negated after a minus sign. -/
def signedValue (m : Nat) : Int := if neg then -m else m

/-- The target type has the number; for an unsigned type this is about the number before it is negated. -/
def Representable (m : Nat) : Prop :=
  if signed then -2 ^ (w - 1) ≤ signedValue neg m ∧ signedValue neg m < 2 ^ (w - 1) else m < 2 ^ w

/-- The end of the type, on the side of the sign for a signed type. -/
def saturated : BitVec w := if signed then if neg then BitVec.intMin w else BitVec.intMax w else BitVec.allOnes w

end

def StrtoxRc.isUnderflow : StrtoxRc → Bool
  | underflowStrtol1 | underflowStrtol2 | underflowStrtoll1 | underflowStrtoll2 => true
  | _ => false

def StrtoxRc.isOverflow : StrtoxRc → Bool
  | overflowStrtol1 | overflowStrtol2 | overflowStrtoll1 | overflowStrtoll2 | overflowStrtoul | overflowStrtoull => true
  | _ => false

section
variable {w : Nat} (signed neg : Bool) (m : Nat) (c : Converted w)

/-- Success with the number; an unsigned type has the equivalent of a negative one. -/
structure Exact : Prop where
  rc : c.rc = .success
  value : if signed then c.value.toInt = signedValue neg m else (c.value.toNat : Int) = signedValue neg m % 2 ^ w

/-- A code for the end of the type that is passed, and that end. -/
structure Saturates : Prop where
  rc : if signed ∧ neg then c.rc.isUnderflow = true else c.rc.isOverflow = true
  value : c.value = saturated w signed neg

end

/-- A conversion of a string to a type. -/
structure ConvertLaw {w : Nat} (signed : Bool) (str : List CChar) (base : Nat) (c : Converted w) : Prop where
  none : (∀ p neg r ds, Subject base p neg r ds → ¬p <+: skipWhitespace str) →
    c = ⟨if deref (skipWhitespace str) = 0 then .noConversionEmpty else .noConversionParse, 0, 0⟩
  endptr : ∀ p neg r ds, Longest base (skipWhitespace str) p neg r ds →
    c.endptr = str.length - (skipWhitespace str).length + p.length
  exact : ∀ p neg r ds, Longest base (skipWhitespace str) p neg r ds → Representable w signed neg (value r ds) →
    Exact signed neg (value r ds) c
  saturates : ∀ p neg r ds, Longest base (skipWhitespace str) p neg r ds → ¬Representable w signed neg (value r ds) →
    Saturates signed neg c

/-- A hex mark that no digit follows. -/
def Dangling (str : List CChar) (base : Nat) : Prop :=
  let s := (sign (skipWhitespace str)).2
  (base = 0 ∨ base = 16) ∧ deref s = ch '0' ∧ (deref (s.drop 1) = ch 'x' ∨ deref (s.drop 1) = ch 'X') ∧
    ∀ d, digitValue (deref (s.drop 2)) = some d → 16 ≤ d

/-- The condition: no hex mark without a digit; and when the number has more than 64 bits, some digit makes it smaller modulo
`2 ^ 64`, or what is left of it modulo `2 ^ 64` is not in the target type. -/
structure ConvertOk (w : Nat) (signed : Bool) (str : List CChar) (base : Nat) : Prop where
  mark : ¬Dangling str base
  wrap : ∀ p neg r ds, Longest base (skipWhitespace str) p neg r ds → 2 ^ 64 ≤ value r ds →
    Noticed 64 r ds ∨ ¬Representable w signed neg (value r ds % 2 ^ 64)

/-! ## Digits -/

theorem toNat_ch : (ch '0').toNat = 48 ∧ (ch '9').toNat = 57 ∧ (ch 'a').toNat = 97 ∧ (ch 'z').toNat = 122 ∧
    (ch 'A').toNat = 65 ∧ (ch 'Z').toNat = 90 := by decide

theorem parseDigit_eq_some_iff {c : CChar} {r d : Nat} : parseDigit c r = some d ↔ digitValue c = some d ∧ d < r := by
  obtain ⟨h0, h9, ha, hz, hA, hZ⟩ := toNat_ch
  unfold parseDigit digitValue isdigit islower isupper
  simp only [BitVec.le_def, h0, h9, ha, hz, hA, hZ, decide_eq_true_eq]
  split_ifs <;> simp only [Option.some.injEq, reduceCtorEq, false_and, false_iff, not_and] <;> omega

theorem parseDigit_eq_none_iff {c : CChar} {r : Nat} : parseDigit c r = none ↔ ∀ d, digitValue c = some d → r ≤ d := by
  rw [Option.eq_none_iff_forall_ne_some]
  constructor
  · intro h d hd
    exact Nat.le_of_not_lt fun hlt => h d (parseDigit_eq_some_iff.2 ⟨hd, hlt⟩)
  · intro h d hd
    obtain ⟨hd, hlt⟩ := parseDigit_eq_some_iff.1 hd
    exact absurd hlt (Nat.not_lt.2 (h d hd))

/-- The digits at the start of a string, with the string after them. -/
structure Span (r : Nat) (s cs : List CChar) (ds : List Nat) (rest : List CChar) : Prop where
  split : s = cs ++ rest
  digits : IsDigits r cs ds
  stops : parseDigit (deref rest) r = none

theorem parseDigit_null (r : Nat) : parseDigit 0 r = none := by
  rw [parseDigit_eq_none_iff]
  have hnull : digitValue 0 = none := by decide
  rw [hnull]
  exact nofun

theorem digitLoop_span (r : Nat) (s : List CChar) (l : DigitLoop) :
    ∃ cs ds rest, Span r s cs ds rest ∧ digitLoop r s l = (ds.foldl (DigitLoop.digit r) l, rest) := by
  induction s generalizing l with
  | nil => exact ⟨[], [], [], ⟨rfl, .nil, parseDigit_null r⟩, rfl⟩
  | cons c s ih =>
    cases hc : parseDigit c r with
    | none =>
      refine ⟨[], [], c :: s, ⟨rfl, .nil, hc⟩, ?_⟩
      unfold digitLoop
      rw [hc]
      rfl
    | some d =>
      obtain ⟨cs, ds, rest, ⟨rfl, hds, hstops⟩, hloop⟩ := ih (l.digit r d)
      refine ⟨c :: cs, d :: ds, rest, ⟨rfl, .cons (parseDigit_eq_some_iff.1 hc) hds, hstops⟩, ?_⟩
      unfold digitLoop
      rw [hc]
      exact hloop

theorem IsDigits.prefix_span {r : Nat} {p s cs rest : List CChar} {ds' ds : List Nat} (h : IsDigits r p ds')
    (hp : p <+: s) (hs : Span r s cs ds rest) : p.length ≤ cs.length ∧ (p.length = cs.length → ds' = ds) := by
  obtain ⟨rfl, hds, hstops⟩ := hs
  induction h generalizing cs ds with
  | nil =>
    refine ⟨Nat.zero_le _, fun hlen => ?_⟩
    cases hds with
    | nil => rfl
    | cons _ _ => exact absurd hlen nofun
  | @cons c d p ds' hc hrest ih =>
    cases hds with
    | nil =>
      obtain ⟨t, ht⟩ := hp
      rw [List.nil_append] at ht
      rw [← ht] at hstops
      exact absurd (hstops.symm.trans (parseDigit_eq_some_iff.2 hc)) nofun
    | @cons c' d' cs ds hc' hds =>
      rw [List.cons_append, List.cons_prefix_cons] at hp
      obtain ⟨rfl, hp⟩ := hp
      obtain ⟨hle, heq⟩ := ih hds hp
      refine ⟨Nat.succ_le_succ hle, fun hlen => ?_⟩
      rw [Option.some.inj (hc.1.symm.trans hc'.1), heq (Nat.succ_inj.1 hlen)]

/-! ## The body -/

/-- A hex mark. -/
def HexMark (s : List CChar) : Prop := deref s = ch '0' ∧ (deref (s.drop 1) = ch 'x' ∨ deref (s.drop 1) = ch 'X')

/-- What the code takes for the radix, and the string after the mark. -/
def marked (base : Nat) (s : List CChar) : Nat × List CChar :=
  if base = 0 then radixMark s else if base = 16 then (16, (radixMark s).2) else (base, s)

/-- Which radix is taken, and after which mark. -/
inductive Marked (base : Nat) (s : List CChar) : List CChar → Nat → List CChar → Prop
  | plain (hbase : 2 ≤ base) (hmark : base = 16 → ¬HexMark s) : Marked base s [] base s
  | octal (hbase : base = 0) (hzero : deref s = ch '0') (hmark : ¬HexMark s) : Marked base s [] 8 s
  | decimal (hbase : base = 0) (hzero : deref s ≠ ch '0') : Marked base s [] 10 s
  | hex {x : CChar} {t : List CChar} (hbase : base = 0 ∨ base = 16) (hx : x = ch 'x' ∨ x = ch 'X')
      (hs : s = ch '0' :: x :: t) : Marked base s [ch '0', x] 16 t

theorem ch_ne : ch '0' ≠ 0 ∧ ch 'x' ≠ 0 ∧ ch 'X' ≠ 0 := by decide

theorem eq_cons_of_deref {s : List CChar} {c : CChar} (h : deref s = c) (hc : c ≠ 0) : s = c :: s.drop 1 := by
  cases s with
  | nil => exact absurd h.symm hc
  | cons c' s => exact congrArg (· :: s) h

theorem HexMark.split {s : List CChar} (h : HexMark s) : ∃ x t, (x = ch 'x' ∨ x = ch 'X') ∧ s = ch '0' :: x :: t := by
  obtain ⟨hzero, hx⟩ := h
  obtain ⟨hne, hne', hne''⟩ := ch_ne
  have hs := eq_cons_of_deref hzero hne
  have hne : deref (s.drop 1) ≠ 0 := by
    obtain hx | hx := hx
    · rwa [hx]
    · rwa [hx]
  refine ⟨deref (s.drop 1), s.drop 2, hx, ?_⟩
  have hs' := eq_cons_of_deref rfl hne
  rw [List.drop_drop] at hs'
  rw [← hs']
  exact hs

theorem radixMark_of_hex {s : List CChar} (h : HexMark s) : radixMark s = (16, s.drop 2) := by
  unfold radixMark
  rw [if_pos h.1, if_pos h.2]

theorem radixMark_of_not {s : List CChar} (h : ¬HexMark s) : radixMark s = (if deref s = ch '0' then 8 else 10, s) := by
  unfold radixMark
  by_cases hzero : deref s = ch '0'
  · rw [if_pos hzero, if_pos hzero, if_neg fun hx => h ⟨hzero, hx⟩]
  · rw [if_neg hzero, if_neg hzero]

theorem marked_spec {base : Nat} (hbase : base = 0 ∨ 2 ≤ base) (s : List CChar) :
    ∃ mark, Marked base s mark (marked base s).1 (marked base s).2 ∧ s = mark ++ (marked base s).2 := by
  unfold marked
  by_cases hmark : HexMark s
  · obtain ⟨x, t, hx, hs⟩ := hmark.split
    have hdrop : s.drop 2 = t := by rw [hs]; rfl
    rw [radixMark_of_hex hmark, hdrop]
    split_ifs with h0 h16
    · exact ⟨_, .hex (.inl h0) hx hs, hs⟩
    · exact ⟨_, .hex (.inr h16) hx hs, hs⟩
    · exact ⟨[], .plain (hbase.resolve_left h0) (fun h => absurd h h16), rfl⟩
  · rw [radixMark_of_not hmark]
    dsimp only
    by_cases h0 : base = 0
    · rw [if_pos h0]
      split_ifs with hzero
      · exact ⟨[], .octal h0 hzero hmark, rfl⟩
      · exact ⟨[], .decimal h0 hzero, rfl⟩
    · have hplain : Marked base s [] base s := .plain (hbase.resolve_left h0) fun _ => hmark
      rw [if_neg h0]
      split_ifs with h16
      · subst h16
        exact ⟨[], hplain, rfl⟩
      · exact ⟨[], hplain, rfl⟩

theorem digitValue_x {x : CChar} (hx : x = ch 'x' ∨ x = ch 'X') : digitValue x = some 33 := by
  obtain rfl | rfl := hx
  · decide
  · decide

theorem IsDigits.length_le_one {r : Nat} {p t : List CChar} {ds : List Nat} {x : CChar} (h : IsDigits r p ds) (hr : r ≤ 33)
    (hx : x = ch 'x' ∨ x = ch 'X') (hp : p <+: ch '0' :: x :: t) : p.length ≤ 1 := by
  cases h with
  | nil => exact Nat.zero_le _
  | cons _ hrest =>
    cases hrest with
    | nil => exact Nat.le_refl _
    | cons hd _ =>
      rw [List.cons_prefix_cons, List.cons_prefix_cons] at hp
      obtain ⟨-, rfl, -⟩ := hp
      have hvalue := Option.some.inj ((digitValue_x hx).symm.trans hd.1)
      omega

theorem IsDigits.eq_nil_iff {r : Nat} {p : List CChar} {ds : List Nat} (h : IsDigits r p ds) : p = [] ↔ ds = [] := by
  cases h with
  | nil => exact iff_of_true rfl rfl
  | cons _ _ => exact iff_of_false nofun nofun

/-- A body at the start of a string with a mark and the digits after it. -/
theorem Body.le_marked {base r r' : Nat} {s mark t cs rest p : List CChar} {ds ds' : List Nat} (h : Body base p r' ds')
    (hp : p <+: s) (hm : Marked base s mark r t) (ht : Span r t cs ds rest) (hhex : mark ≠ [] → cs ≠ []) :
    cs ≠ [] ∧ p.length ≤ mark.length + cs.length ∧ (p.length = mark.length + cs.length → r' = r ∧ ds' = ds) := by
  have hnil : mark.length = 0 → mark = [] := List.length_eq_zero_iff.1
  -- digits of the radix of the mark, without a mark
  have hdigits : ∀ p, IsDigits r p ds' → p ≠ [] → p <+: t → cs ≠ [] ∧ p.length ≤ cs.length ∧ (p.length = cs.length → ds' = ds) := by
    intro p hds hne hp
    obtain ⟨hle, heq⟩ := hds.prefix_span hp ht
    refine ⟨?_, hle, heq⟩
    rintro rfl
    exact hne (List.length_eq_zero_iff.1 (Nat.le_zero.1 hle))
  cases hm with
  | plain hbase hmark =>
    cases h with
    | decimal h0 | octal h0 => omega
    | hex h16 hx hcs hds =>
      obtain rfl : base = 16 := h16.resolve_left (by omega)
      obtain ⟨t', rfl⟩ := hp
      exact absurd ⟨rfl, hx⟩ (hmark rfl)
    | plain _ hne hds =>
      obtain ⟨hcs, hle, heq⟩ := hdigits p hds hne hp
      refine ⟨hcs, (Nat.zero_add cs.length).symm ▸ hle, fun hlen => ⟨rfl, heq ?_⟩⟩
      rwa [List.length_nil, Nat.zero_add] at hlen
  | octal hbase hzero hmark =>
    cases h with
    | decimal _ hc hds =>
      obtain ⟨t', rfl⟩ := hp
      exact absurd hzero hc
    | octal _ hds =>
      obtain ⟨hcs, hle, heq⟩ := hdigits _ hds nofun hp
      refine ⟨hcs, (Nat.zero_add cs.length).symm ▸ hle, fun hlen => ⟨rfl, heq ?_⟩⟩
      rwa [List.length_nil, Nat.zero_add] at hlen
    | hex _ hx hcs hds =>
      obtain ⟨t', rfl⟩ := hp
      exact absurd ⟨rfl, hx⟩ hmark
    | plain h2 => omega
  | decimal hbase hzero =>
    cases h with
    | decimal _ hc hds =>
      obtain ⟨hcs, hle, heq⟩ := hdigits _ hds nofun hp
      refine ⟨hcs, (Nat.zero_add cs.length).symm ▸ hle, fun hlen => ⟨rfl, heq ?_⟩⟩
      rwa [List.length_nil, Nat.zero_add] at hlen
    | octal _ hds | hex _ _ _ hds =>
      obtain ⟨t', rfl⟩ := hp
      exact absurd rfl hzero
    | plain h2 => omega
  | @hex x t hbase hx hs =>
    have hcs : cs ≠ [] := hhex nofun
    have hpos : 1 ≤ cs.length := List.length_pos_iff.2 hcs
    subst hs
    have hshort : p.length ≤ 1 → cs ≠ [] ∧ p.length ≤ 2 + cs.length ∧ (p.length = 2 + cs.length → r' = 16 ∧ ds' = ds) :=
      fun hle => ⟨hcs, by omega, fun hlen => by omega⟩
    cases h with
    | decimal _ hc hds =>
      rw [List.cons_prefix_cons] at hp
      exact absurd hp.1 hc
    | octal _ hds => exact hshort (hds.length_le_one (by decide) hx hp)
    | hex _ hx' hne hds =>
      rw [List.cons_prefix_cons, List.cons_prefix_cons] at hp
      obtain ⟨-, rfl, hp⟩ := hp
      obtain ⟨-, hle, heq⟩ := hdigits _ hds hne hp
      refine ⟨hcs, ?_, fun hlen => ⟨rfl, heq ?_⟩⟩
      · rw [List.length_cons, List.length_cons]
        show _ ≤ 2 + _
        omega
      · rw [List.length_cons, List.length_cons] at hlen
        have hlen' : _ = 2 + cs.length := hlen
        omega
    | plain h2 hne hds =>
      obtain rfl : base = 16 := hbase.resolve_left (by omega)
      exact hshort (hds.length_le_one (by decide) hx hp)

theorem Marked.body {base r : Nat} {s mark t cs rest : List CChar} {ds : List Nat} (hm : Marked base s mark r t)
    (ht : Span r t cs ds rest) (hcs : cs ≠ []) : Body base (mark ++ cs) r ds := by
  obtain ⟨rfl, hds, -⟩ := ht
  cases hm with
  | plain hbase _ => exact .plain hbase hcs hds
  | octal hbase hzero _ =>
    cases hds with
    | nil => exact absurd rfl hcs
    | cons hd hrest =>
      obtain rfl := hzero
      exact .octal hbase (.cons hd hrest)
  | decimal hbase hzero =>
    cases hds with
    | nil => exact absurd rfl hcs
    | cons hd hrest => exact .decimal hbase hzero (.cons hd hrest)
  | hex hbase hx _ => exact .hex hbase hx hcs hds

/-! ## The subject sequence -/

/-- The sign, and the string after it. -/
inductive Signed (s : List CChar) : List CChar → Bool → List CChar → Prop
  | bare (hplus : deref s ≠ ch '+') (hminus : deref s ≠ ch '-') : Signed s [] false s
  | plus {t : List CChar} (hs : s = ch '+' :: t) : Signed s [ch '+'] false t
  | minus {t : List CChar} (hs : s = ch '-' :: t) : Signed s [ch '-'] true t

theorem sign_spec (s : List CChar) : ∃ sgn, Signed s sgn (sign s).1 (sign s).2 ∧ s = sgn ++ (sign s).2 := by
  have hplus : ch '+' ≠ 0 := by decide
  have hminus : ch '-' ≠ 0 := by decide
  unfold sign
  split_ifs with h h'
  · have hs := eq_cons_of_deref h hplus
    exact ⟨_, .plus hs, hs⟩
  · have hs := eq_cons_of_deref h' hminus
    exact ⟨_, .minus hs, hs⟩
  · exact ⟨[], .bare h h', rfl⟩

section
variable {base r r' : Nat} {s sgn t mark u cs rest p body : List CChar} {ds ds' : List Nat} {neg neg' : Bool}

theorem Body.head (h : Body base p r ds) : ∃ c q d, p = c :: q ∧ digitValue c = some d := by
  have hdigits : ∀ {r : Nat} {p : List CChar} {ds : List Nat}, p ≠ [] → IsDigits r p ds →
      ∃ c q d, p = c :: q ∧ digitValue c = some d := by
    intro r p ds hne hds
    cases hds with
    | nil => exact absurd rfl hne
    | cons hd _ => exact ⟨_, _, _, rfl, hd.1⟩
  cases h with
  | decimal _ _ hds => exact hdigits nofun hds
  | octal _ hds => exact hdigits nofun hds
  | hex => exact ⟨_, _, 0, rfl, by decide⟩
  | plain _ hne hds => exact hdigits hne hds

/-- A subject sequence at the start of a string is its sign and a body after it. -/
theorem Subject.split (h : Subject base p neg' r' ds') (hp : p <+: s) (hs : Signed s sgn neg t) :
    ∃ body, p = sgn ++ body ∧ neg' = neg ∧ Body base body r' ds' ∧ body <+: t := by
  have hne : ch '+' ≠ ch '-' := by decide
  have hplus : digitValue (ch '+') = none := by decide
  have hminus : digitValue (ch '-') = none := by decide
  cases hs with
  | bare hnoplus hnominus =>
    cases h with
    | bare hbody => exact ⟨p, rfl, rfl, hbody, hp⟩
    | plus _ =>
      obtain ⟨q, rfl⟩ := hp
      exact absurd rfl hnoplus
    | minus _ =>
      obtain ⟨q, rfl⟩ := hp
      exact absurd rfl hnominus
  | plus hs =>
    subst hs
    cases h with
    | bare hbody =>
      obtain ⟨c, q, d, rfl, hd⟩ := hbody.head
      obtain rfl := (List.cons_prefix_cons.1 hp).1
      exact absurd (hplus.symm.trans hd) nofun
    | plus hbody => exact ⟨_, rfl, rfl, hbody, (List.cons_prefix_cons.1 hp).2⟩
    | minus _ => exact absurd (List.cons_prefix_cons.1 hp).1.symm hne
  | minus hs =>
    subst hs
    cases h with
    | bare hbody =>
      obtain ⟨c, q, d, rfl, hd⟩ := hbody.head
      obtain rfl := (List.cons_prefix_cons.1 hp).1
      exact absurd (hminus.symm.trans hd) nofun
    | plus _ => exact absurd (List.cons_prefix_cons.1 hp).1 hne
    | minus hbody => exact ⟨_, rfl, rfl, hbody, (List.cons_prefix_cons.1 hp).2⟩

theorem Subject.radix_pos (h : Subject base p neg r ds) : 1 ≤ r := by
  have hbody : ∀ {p : List CChar} {r : Nat} {ds : List Nat}, Body base p r ds → 1 ≤ r := by
    intro p r ds h
    cases h with
    | decimal | octal | hex => decide
    | plain h2 => omega
  cases h with
  | bare h | plus h | minus h => exact hbody h

theorem Signed.subject (hs : Signed s sgn neg t) (hbody : Body base body r ds) : Subject base (sgn ++ body) neg r ds := by
  cases hs with
  | bare _ _ => exact .bare hbody
  | plus _ => exact .plus hbody
  | minus _ => exact .minus hbody

theorem not_subject_of_span (hs : Signed s sgn neg t) (hm : Marked base t [] r u) (hspan : Span r u [] ds rest) :
    ∀ p neg r ds, Subject base p neg r ds → ¬p <+: s := by
  intro p neg' r' ds' hsubject hp
  obtain ⟨body, -, -, hbody, hbody'⟩ := hsubject.split hp hs
  exact (hbody.le_marked hbody' hm hspan fun h => absurd rfl h).1 rfl

theorem longest_of_span (hs : Signed s sgn neg t) (hsplit : s = sgn ++ t) (hm : Marked base t mark r u) (ht : t = mark ++ u)
    (hspan : Span r u cs ds rest) (hcs : cs ≠ []) :
    Longest base s (sgn ++ (mark ++ cs)) neg r ds ∧
      ∀ p neg' r' ds', Longest base s p neg' r' ds' → p = sgn ++ (mark ++ cs) ∧ neg' = neg ∧ r' = r ∧ ds' = ds := by
  have hlongest : ∀ p neg' r' ds', Subject base p neg' r' ds' → p <+: s → p.length ≤ (sgn ++ (mark ++ cs)).length ∧
      (p.length = (sgn ++ (mark ++ cs)).length → neg' = neg ∧ r' = r ∧ ds' = ds) := by
    intro p neg' r' ds' hsubject hp
    obtain ⟨body, rfl, hneg, hbody, hbody'⟩ := hsubject.split hp hs
    obtain ⟨-, hle, heq⟩ := hbody.le_marked hbody' hm hspan fun _ => hcs
    rw [List.length_append, List.length_append, List.length_append]
    refine ⟨by omega, fun hlen => ⟨hneg, heq (by omega)⟩⟩
  have hinitial : sgn ++ (mark ++ cs) <+: s := by
    refine ⟨rest, ?_⟩
    rw [hsplit, ht, hspan.split, List.append_assoc, List.append_assoc]
  have hsubject := hs.subject (hm.body hspan hcs)
  refine ⟨⟨hsubject, hinitial, fun p neg' r' ds' h hp => (hlongest p neg' r' ds' h hp).1⟩, ?_⟩
  intro p neg' r' ds' h
  have hlen : p.length = (sgn ++ (mark ++ cs)).length :=
    Nat.le_antisymm (hlongest p neg' r' ds' h.subject h.initial).1 (h.longest _ _ _ _ hsubject hinitial)
  refine ⟨?_, (hlongest p neg' r' ds' h.subject h.initial).2 hlen⟩
  exact (List.prefix_of_prefix_length_le h.initial hinitial (Nat.le_of_eq hlen)).eq_of_length hlen

theorem longest_of_dangling (hbase : base = 0 ∨ base = 16) (hs : Signed s sgn neg t) (hsplit : s = sgn ++ t) (hmark : HexMark t)
    (hnone : ∀ d, digitValue (deref (t.drop 2)) = some d → 16 ≤ d) : ∃ r, Longest base s (sgn ++ [ch '0']) neg r [0] := by
  obtain ⟨x, u, hx, ht⟩ := hmark.split
  have hzero : digitValue (ch '0') = some 0 := by decide
  have hbody : ∃ r, Body base [ch '0'] r [0] := by
    obtain rfl | rfl := hbase
    · exact ⟨8, .octal rfl (.cons ⟨hzero, by decide⟩ .nil)⟩
    · exact ⟨16, .plain (by decide) nofun (.cons ⟨hzero, by decide⟩ .nil)⟩
  obtain ⟨r, hbody⟩ := hbody
  refine ⟨r, hs.subject hbody, ⟨x :: u, ?_⟩, ?_⟩
  · rw [hsplit, ht, List.append_assoc]
    rfl
  · intro p neg' r' ds' hsubject hp
    obtain ⟨body, rfl, -, hbody', hp'⟩ := hsubject.split hp hs
    have hshort : body.length ≤ 1 := by
      rw [ht] at hp' hnone
      cases hbody' with
      | decimal _ hc _ => exact absurd (List.cons_prefix_cons.1 hp').1 hc
      | octal _ hds => exact hds.length_le_one (by decide) hx hp'
      | hex _ _ hcs hds =>
        cases hds with
        | nil => exact absurd rfl hcs
        | cons hd _ =>
          rw [List.cons_prefix_cons, List.cons_prefix_cons] at hp'
          obtain ⟨-, -, q, rfl⟩ := hp'
          exact absurd hd.2 (Nat.not_lt.2 (hnone _ hd.1))
      | plain _ _ hds => exact hds.length_le_one (by omega) hx hp'
    rw [List.length_append, List.length_append]
    exact Nat.add_le_add_left hshort _

end

/-! ## The common conversion -/

theorem foldl_digit (r : Nat) {ds : List Nat} (hds : ds ≠ []) :
    ds.foldl (DigitLoop.digit r) ⟨.noConversionParse, 0, false⟩ =
      ⟨.success, (accumulate 64 r ds).value, (accumulate 64 r ds).wrapped⟩ := by
  have hstep : ∀ (a : Acc 64) (d : Nat), (⟨.success, a.value, a.wrapped⟩ : DigitLoop).digit r d =
      ⟨.success, (a.digit r d).value, (a.digit r d).wrapped⟩ := by
    intro a d
    unfold DigitLoop.digit Acc.digit
    dsimp only
    split_ifs with hwrapped hless
    · rfl
    · rfl
    · rw [Bool.eq_false_iff.2 hwrapped]
  have hrest : ∀ (ds : List Nat) (a : Acc 64), ds.foldl (DigitLoop.digit r) ⟨.success, a.value, a.wrapped⟩ =
      ⟨.success, (ds.foldl (Acc.digit r) a).value, (ds.foldl (Acc.digit r) a).wrapped⟩ := by
    intro ds
    induction ds with
    | nil => exact fun _ => rfl
    | cons d ds ih =>
      intro a
      rw [List.foldl_cons, List.foldl_cons, hstep, ih]
  cases ds with
  | nil => exact absurd rfl hds
  | cons d ds =>
    have hfirst : (⟨.noConversionParse, 0, false⟩ : DigitLoop).digit r d =
        (⟨.success, (Acc.start : Acc 64).value, (Acc.start : Acc 64).wrapped⟩ : DigitLoop).digit r d := rfl
    rw [List.foldl_cons, hfirst, hstep, hrest]
    rfl

/-- What the common conversion finds. -/
inductive Found (str : List CChar) (base : Nat) (x : Strtox) : Prop
  | none (hnone : ∀ p neg r ds, Subject base p neg r ds → ¬p <+: skipWhitespace str)
      (hrc : x.rc = if deref (skipWhitespace str) = 0 then .noConversionEmpty else .noConversionParse) (hend : x.endptr = 0)
  | some {p : List CChar} {r : Nat} {ds : List Nat} (hlongest : Longest base (skipWhitespace str) p x.negative r ds)
      (honly : ∀ p' neg' r' ds', Longest base (skipWhitespace str) p' neg' r' ds' → p' = p ∧ neg' = x.negative ∧ r' = r ∧ ds' = ds)
      (hrc : x.rc = .success) (hvalue : x.value = (accumulate 64 r ds).value) (hover : x.overflow = (accumulate 64 r ds).wrapped)
      (hend : x.endptr = str.length - (skipWhitespace str).length + p.length)
  | dangling {p : List CChar} {neg : Bool} {r : Nat} (hlongest : Longest base (skipWhitespace str) p neg r [0])
      (hmark : Dangling str base) (hrc : x.rc ≠ .success)

theorem strtox_of_base (str : List CChar) {base : Nat} (hbase : base = 0 ∨ 2 ≤ base ∧ base ≤ 36) :
    strtox str base = if deref (skipWhitespace str) = 0 then ⟨.noConversionEmpty, 0, false, false, 0⟩
      else
        let signed := sign (skipWhitespace str)
        let parsed := digitLoop (marked base signed.2).1 (marked base signed.2).2 ⟨.noConversionParse, 0, false⟩
        ⟨parsed.1.rc, parsed.1.value, signed.1, parsed.1.overflow,
          if parsed.1.rc = .success then str.length - parsed.2.length else 0⟩ := by
  have hvalid : ¬(base ≠ 0 ∧ (base < 2 ∨ 36 < base)) := by omega
  unfold strtox
  rw [if_neg hvalid]
  rfl

theorem Marked.not_dangling {base r : Nat} {t mark u cs rest : List CChar} {ds : List Nat} (hm : Marked base t mark r u)
    (hspan : Span r u cs ds rest) (hcs : cs ≠ []) (hbase : base = 0 ∨ base = 16) (hmark : HexMark t) :
    ∃ d, digitValue (deref (t.drop 2)) = some d ∧ d < 16 := by
  cases hm with
  | plain h2 hno =>
    obtain rfl : base = 16 := hbase.resolve_left (by omega)
    exact absurd hmark (hno rfl)
  | octal _ _ hno => exact absurd hmark hno
  | decimal _ hzero => exact absurd hmark.1 hzero
  | hex _ _ ht =>
    obtain ⟨rfl, hds, -⟩ := hspan
    rw [ht]
    cases hds with
    | nil => exact absurd rfl hcs
    | cons hd _ => exact ⟨_, hd⟩

theorem strtox_found (str : List CChar) {base : Nat} (hbase : base = 0 ∨ 2 ≤ base ∧ base ≤ 36) :
    Found str base (strtox str base) ∧ (Dangling str base → (strtox str base).rc ≠ .success) := by
  have hbase' : base = 0 ∨ 2 ≤ base := hbase.imp_right And.left
  obtain ⟨sgn, hs, hsplit⟩ := sign_spec (skipWhitespace str)
  obtain ⟨mark, hm, ht⟩ := marked_spec hbase' (sign (skipWhitespace str)).2
  rw [strtox_of_base str hbase]
  by_cases hempty : deref (skipWhitespace str) = 0
  · rw [if_pos hempty]
    refine ⟨.none ?_ (if_pos hempty).symm rfl, fun _ => nofun⟩
    -- there is no sign, no mark and no digit at the end of the string
    have hother : ∀ c, c ≠ 0 → deref (skipWhitespace str) ≠ c := fun c hc h => hc (h.symm.trans hempty)
    have hsgn : Signed (skipWhitespace str) [] false (skipWhitespace str) :=
      .bare (hother _ (by decide)) (hother _ (by decide))
    have hspan : ∀ r, Span r (skipWhitespace str) [] [] (skipWhitespace str) := by
      intro r
      refine ⟨rfl, .nil, ?_⟩
      rw [hempty]
      exact parseDigit_null r
    obtain h0 | h2 := hbase'
    · exact not_subject_of_span hsgn (.decimal h0 (hother _ (by decide))) (hspan 10)
    · exact not_subject_of_span hsgn (.plain h2 fun _ h => hother _ (by decide) h.1) (hspan base)
  · rw [if_neg hempty]
    obtain ⟨cs, ds, rest, hspan, hloop⟩ := digitLoop_span (marked base (sign (skipWhitespace str)).2).1
      (marked base (sign (skipWhitespace str)).2).2 ⟨.noConversionParse, 0, false⟩
    dsimp only
    rw [hloop]
    generalize (marked base (sign (skipWhitespace str)).2).1 = r at hm hspan
    generalize (marked base (sign (skipWhitespace str)).2).2 = u at hm hspan ht
    by_cases hcs : cs = []
    · obtain rfl := hspan.digits.eq_nil_iff.1 hcs
      subst hcs
      refine ⟨?_, fun _ => nofun⟩
      have hnohex : mark = [] → ∀ p neg r ds, Subject base p neg r ds → ¬p <+: skipWhitespace str := by
        rintro rfl
        exact not_subject_of_span hs hm hspan
      have hrest : u = rest := hspan.split
      subst hrest
      cases hm with
      | plain _ _ | octal _ _ _ | decimal _ _ => exact .none (hnohex rfl) (if_neg hempty).symm rfl
      | hex hb hx hhex =>
        have hmark : HexMark (sign (skipWhitespace str)).2 := by
          rw [hhex]
          exact ⟨rfl, hx⟩
        have hnone : ∀ d, digitValue (deref ((sign (skipWhitespace str)).2.drop 2)) = some d → 16 ≤ d := by
          rw [hhex]
          exact parseDigit_eq_none_iff.1 hspan.stops
        obtain ⟨r, hlongest⟩ := longest_of_dangling hb hs hsplit hmark hnone
        exact .dangling hlongest ⟨hb, hmark.1, hmark.2, hnone⟩ nofun
    · have hds : ds ≠ [] := fun h => hcs (hspan.digits.eq_nil_iff.2 h)
      obtain ⟨hlongest, honly⟩ := longest_of_span hs hsplit hm ht hspan hcs
      rw [foldl_digit r hds]
      refine ⟨.some hlongest honly rfl rfl rfl ?_, ?_⟩
      · have hsuffix : (skipWhitespace str).length ≤ str.length := (List.dropWhile_sublist _).length_le
        have hlen := congrArg List.length hsplit
        rw [ht, hspan.split, List.length_append, List.length_append, List.length_append] at hlen
        rw [List.length_append, List.length_append]
        show str.length - rest.length = _
        omega
      · rintro ⟨hb, hzero, hx, hnone⟩
        obtain ⟨d, hd, hlt⟩ := hm.not_dangling hspan hcs hb ⟨hzero, hx⟩
        exact absurd hlt (Nat.not_lt.2 (hnone d hd))

/-! ## The target types -/

section
variable {w : Nat}

/-- What a type makes of the common conversion. -/
structure Outcome (signed : Bool) (x : Strtox) (c : Converted w) : Prop where
  failed : x.rc ≠ .success → c = ⟨x.rc, 0, x.endptr⟩
  endptr : c.endptr = x.endptr
  exact : x.rc = .success → x.overflow = false → Representable w signed x.negative x.value.toNat →
    Exact signed x.negative x.value.toNat c
  saturates : x.rc = .success → x.overflow = true ∨ ¬Representable w signed x.negative x.value.toNat →
    Saturates signed x.negative c

theorem not_representable {signed neg : Bool} {m : Nat} (hw : w ≤ 64) (hm : 2 ^ 64 ≤ m) : ¬Representable w signed neg m := by
  have hwide : 2 ^ w ≤ 2 ^ 64 := Nat.pow_le_pow_right (by decide) hw
  have hhalf : (2 : Int) ^ (w - 1) ≤ 2 ^ 63 := by
    have hnat : 2 ^ (w - 1) ≤ 2 ^ 63 := Nat.pow_le_pow_right (by decide) (by omega)
    exact_mod_cast hnat
  unfold Representable signedValue
  cases signed with
  | true =>
    rw [if_pos rfl]
    rintro ⟨hlow, hhigh⟩
    cases neg with
    | true =>
      rw [if_pos rfl] at hlow
      omega
    | false =>
      rw [if_neg Bool.false_ne_true] at hhigh
      omega
  | false =>
    rw [if_neg Bool.false_ne_true]
    omega

theorem Exact.not_saturates {signed neg neg' : Bool} {m : Nat} {c : Converted w} (h : Exact signed neg m c)
    (hs : Saturates signed neg' c) : False := by
  have hrc := hs.rc
  rw [h.rc] at hrc
  split at hrc
  · exact Bool.false_ne_true hrc
  · exact Bool.false_ne_true hrc

/-- A type that makes of the common conversion what it should meets the law exactly under the condition. -/
theorem convertLaw_iff {signed : Bool} {str : List CChar} {base : Nat} {c : Converted w} (hw : w ≤ 64)
    (hbase : base = 0 ∨ 2 ≤ base ∧ base ≤ 36) (hc : Outcome signed (strtox str base) c) :
    ConvertLaw signed str base c ↔ ConvertOk w signed str base := by
  obtain ⟨hfound, hdangling⟩ := strtox_found str hbase
  generalize strtox str base = x at hc hfound hdangling
  cases hfound with
  | none hnone hrc hend =>
    have hne : x.rc ≠ .success := by
      rw [hrc]
      split_ifs <;> nofun
    have hnot : ∀ {p neg r ds}, ¬Longest base (skipWhitespace str) p neg r ds := fun h => hnone _ _ _ _ h.subject h.initial
    constructor
    · intro _
      refine ⟨fun hmark => ?_, fun _ _ _ _ h => absurd h hnot⟩
      obtain ⟨hb, hzero, hx, hdigit⟩ := hmark
      obtain ⟨sgn, hs, hsplit⟩ := sign_spec (skipWhitespace str)
      obtain ⟨r, hlongest⟩ := longest_of_dangling hb hs hsplit ⟨hzero, hx⟩ hdigit
      exact hnot hlongest
    · intro _
      refine ⟨fun _ => ?_, fun _ _ _ _ h => absurd h hnot, fun _ _ _ _ h => absurd h hnot, fun _ _ _ _ h => absurd h hnot⟩
      rw [hc.failed hne, hrc, hend]
  | @some p r ds hlongest honly hrc hvalue hover hend =>
    obtain ⟨hwrapped, hnumber⟩ := accumulate_spec (w := 64) r ds
    have hone : 1 ≤ r := hlongest.subject.radix_pos
    have hend' : c.endptr = str.length - (skipWhitespace str).length + p.length := hc.endptr.trans hend
    -- the law speaks of one subject sequence only
    have hlaw : ConvertLaw signed str base c ↔ (Representable w signed x.negative (value r ds) → Exact signed x.negative (value r ds) c) ∧
        (¬Representable w signed x.negative (value r ds) → Saturates signed x.negative c) := by
      constructor
      · exact fun h => ⟨h.exact _ _ _ _ hlongest, h.saturates _ _ _ _ hlongest⟩
      · rintro ⟨hexact, hsat⟩
        refine ⟨fun hnone => absurd hlongest.initial (hnone _ _ _ _ hlongest.subject), ?_, ?_, ?_⟩
        · intro p' neg' r' ds' h
          obtain ⟨rfl, -, -, -⟩ := honly _ _ _ _ h
          exact hend'
        · intro p' neg' r' ds' h
          obtain ⟨-, rfl, rfl, rfl⟩ := honly _ _ _ _ h
          exact hexact
        · intro p' neg' r' ds' h
          obtain ⟨-, rfl, rfl, rfl⟩ := honly _ _ _ _ h
          exact hsat
    have hok : ConvertOk w signed str base ↔ (2 ^ 64 ≤ value r ds → Noticed 64 r ds ∨
        ¬Representable w signed x.negative (value r ds % 2 ^ 64)) := by
      constructor
      · exact fun h => h.wrap _ _ _ _ hlongest
      · intro h
        refine ⟨fun hmark => hdangling hmark hrc, ?_⟩
        intro p' neg' r' ds' h'
        obtain ⟨-, rfl, rfl, rfl⟩ := honly _ _ _ _ h'
        exact h
    rw [hlaw, hok]
    by_cases hfits : value r ds < 2 ^ 64
    · have hclean : (accumulate 64 r ds).wrapped = false :=
        Bool.eq_false_iff.2 fun h => absurd (le_value_of_noticed hone (hwrapped.1 h)) (Nat.not_le.2 hfits)
      have hm : x.value.toNat = value r ds := by
        rw [hvalue, hnumber hclean, Nat.mod_eq_of_lt hfits]
      refine iff_of_true ⟨fun hrep => ?_, fun hrep => ?_⟩ fun h => absurd hfits (Nat.not_lt.2 h)
      · rw [← hm] at hrep ⊢
        exact hc.exact hrc (hover.trans hclean) hrep
      · rw [← hm] at hrep
        exact hc.saturates hrc (.inr hrep)
    · have hnot : ¬Representable w signed x.negative (value r ds) := not_representable hw (Nat.not_lt.1 hfits)
      constructor
      · rintro ⟨-, hsat⟩ -
        refine Classical.byContradiction fun hbad => ?_
        rw [not_or, not_not] at hbad
        have hclean : (accumulate 64 r ds).wrapped = false := Bool.eq_false_iff.2 fun h => hbad.1 (hwrapped.1 h)
        have hrep := hbad.2
        rw [← hnumber hclean, ← hvalue] at hrep
        exact (hc.exact hrc (hover.trans hclean) hrep).not_saturates (hsat hnot)
      · intro hnoticed
        refine ⟨fun hrep => absurd hrep hnot, fun _ => hc.saturates hrc ?_⟩
        cases hclean : (accumulate 64 r ds).wrapped with
        | true => exact .inl (hover.trans hclean)
        | false =>
          obtain hn | hn := hnoticed (Nat.not_lt.1 hfits)
          · exact absurd (hwrapped.2 hn) (Bool.eq_false_iff.1 hclean)
          · rw [← hnumber hclean, ← hvalue] at hn
            exact .inr hn
  | @dangling p neg r hlongest hmark hrc =>
    have hzero : Representable w signed neg (value r [0]) := by
      have hvalue : value r [0] = 0 := Nat.zero_mul r
      have hpos := Nat.two_pow_pos w
      have hhalf : (0 : Int) < 2 ^ (w - 1) := by exact_mod_cast Nat.two_pow_pos (w - 1)
      unfold Representable signedValue
      rw [hvalue]
      cases signed with
      | true =>
        rw [if_pos rfl]
        split <;> omega
      | false =>
        rw [if_neg Bool.false_ne_true]
        exact hpos
    constructor
    · intro hlaw
      have hsuccess := (hlaw.exact _ _ _ _ hlongest hzero).rc
      rw [hc.failed hrc] at hsuccess
      exact absurd hsuccess hrc
    · exact fun hok => absurd hmark hok.mark

end

section
variable {w : Nat} {v : BitVec 64}

theorem representable_neg {m : Nat} : Representable w true true m ↔ (m : Int) ≤ 2 ^ (w - 1) := by
  have hpos : (0 : Int) < 2 ^ (w - 1) := by exact_mod_cast Nat.two_pow_pos (w - 1)
  unfold Representable signedValue
  rw [if_pos rfl, if_pos rfl]
  omega

theorem representable_pos {m : Nat} : Representable w true false m ↔ (m : Int) < 2 ^ (w - 1) := by
  have hpos : (0 : Int) < 2 ^ (w - 1) := by exact_mod_cast Nat.two_pow_pos (w - 1)
  unfold Representable signedValue
  rw [if_pos rfl, if_neg Bool.false_ne_true]
  omega

theorem ne_setWidth_iff : v ≠ (v.setWidth 32).setWidth 64 ↔ 2 ^ 32 ≤ v.toNat := by
  have hlt := v.isLt
  rw [ne_eq, ← BitVec.toNat_inj, BitVec.toNat_setWidth, BitVec.toNat_setWidth]
  omega

theorem toNat_not_add_one : (~~~v + 1).toNat = (2 ^ 64 - v.toNat) % 2 ^ 64 := by
  have hneg : ~~~v + 1 = -v := (BitVec.neg_eq_not_add v).symm
  rw [hneg, BitVec.toNat_neg]

end

/-- The codes of a signed type: for the end below and above, found by the width and found by the sign. -/
structure SignedCodes where
  below : StrtoxRc
  above : StrtoxRc
  belowSign : StrtoxRc
  aboveSign : StrtoxRc
  below_is : below.isUnderflow = true ∧ belowSign.isUnderflow = true
  above_is : above.isOverflow = true ∧ aboveSign.isOverflow = true

def longCodes : SignedCodes :=
  ⟨.underflowStrtol1, .overflowStrtol1, .underflowStrtol2, .overflowStrtol2, ⟨rfl, rfl⟩, ⟨rfl, rfl⟩⟩

def llongCodes : SignedCodes :=
  ⟨.underflowStrtoll1, .overflowStrtoll1, .underflowStrtoll2, .overflowStrtoll2, ⟨rfl, rfl⟩, ⟨rfl, rfl⟩⟩

/-- What a signed type makes of a number: `wide` is whether it has more bits than the type. -/
def signedNumber (w : Nat) (codes : SignedCodes) (wide negative : Bool) (v : BitVec 64) : StrtoxRc × BitVec w :=
  if wide then if negative then (codes.below, BitVec.intMin w) else (codes.above, BitVec.intMax w)
  else if negative then
    if (BitVec.intMax w).setWidth 64 + 1 < v then (codes.belowSign, BitVec.intMin w) else (.success, (~~~v + 1).setWidth w)
  else if (BitVec.intMax w).setWidth 64 < v then (codes.aboveSign, BitVec.intMax w) else (.success, v.setWidth w)

/-- A number that a signed type has. -/
theorem signedNumber_exact {w : Nat} {codes : SignedCodes} {negative : Bool} {v : BitVec 64} (hw : w = 32 ∨ w = 64)
    (h : Representable w true negative v.toNat) : (signedNumber w codes false negative v).1 = .success ∧
      (signedNumber w codes false negative v).2.toInt = signedValue negative v.toNat := by
  have hv := v.isLt
  have hmax : ((BitVec.intMax w).setWidth 64).toNat = 2 ^ (w - 1) - 1 ∧
      ((BitVec.intMax w).setWidth 64 + 1).toNat = 2 ^ (w - 1) := by
    obtain rfl | rfl := hw
    · decide
    · decide
  unfold signedNumber signedValue
  rw [if_neg Bool.false_ne_true]
  cases negative with
  | true =>
    rw [representable_neg] at h
    rw [if_pos rfl, if_pos rfl]
    have hfits : ¬(BitVec.intMax w).setWidth 64 + 1 < v := by
      rw [BitVec.lt_def, hmax.2]
      obtain rfl | rfl := hw <;> omega
    rw [if_neg hfits]
    refine ⟨rfl, ?_⟩
    rw [BitVec.toInt_eq_toNat_cond, BitVec.toNat_setWidth, toNat_not_add_one]
    obtain rfl | rfl := hw <;> omega
  | false =>
    rw [representable_pos] at h
    rw [if_neg Bool.false_ne_true, if_neg Bool.false_ne_true]
    have hfits : ¬(BitVec.intMax w).setWidth 64 < v := by
      rw [BitVec.lt_def, hmax.1]
      obtain rfl | rfl := hw <;> omega
    rw [if_neg hfits]
    refine ⟨rfl, ?_⟩
    rw [BitVec.toInt_eq_toNat_cond, BitVec.toNat_setWidth]
    obtain rfl | rfl := hw <;> omega

/-- A number that a signed type does not have. -/
theorem signedNumber_saturates {w : Nat} {codes : SignedCodes} {wide negative : Bool} {v : BitVec 64} (hw : w = 32 ∨ w = 64)
    (h : wide = true ∨ ¬Representable w true negative v.toNat) :
    (if negative then (signedNumber w codes wide negative v).1.isUnderflow = true
      else (signedNumber w codes wide negative v).1.isOverflow = true) ∧
      (signedNumber w codes wide negative v).2 = saturated w true negative := by
  have hmax : ((BitVec.intMax w).setWidth 64).toNat = 2 ^ (w - 1) - 1 ∧
      ((BitVec.intMax w).setWidth 64 + 1).toNat = 2 ^ (w - 1) := by
    obtain rfl | rfl := hw
    · decide
    · decide
  unfold signedNumber
  cases wide with
  | true =>
    cases negative with
    | true => exact ⟨codes.below_is.1, rfl⟩
    | false => exact ⟨codes.above_is.1, rfl⟩
  | false =>
    have h := h.resolve_left Bool.false_ne_true
    rw [if_neg Bool.false_ne_true]
    cases negative with
    | true =>
      rw [representable_neg] at h
      have hbeyond : (BitVec.intMax w).setWidth 64 + 1 < v := by
        rw [BitVec.lt_def, hmax.2]
        obtain rfl | rfl := hw <;> omega
      rw [if_pos rfl, if_pos rfl, if_pos hbeyond]
      exact ⟨codes.below_is.2, rfl⟩
    | false =>
      rw [representable_pos] at h
      have hbeyond : (BitVec.intMax w).setWidth 64 < v := by
        rw [BitVec.lt_def, hmax.1]
        obtain rfl | rfl := hw <;> omega
      rw [if_neg Bool.false_ne_true, if_neg Bool.false_ne_true, if_pos hbeyond]
      exact ⟨codes.above_is.2, rfl⟩

/-- A signed type that takes the number as above. -/
theorem signed_outcome {w : Nat} {codes : SignedCodes} {wide : Bool} {x : Strtox} {c : Converted w} (hw : w = 32 ∨ w = 64)
    (hwide : wide = true ↔ x.overflow = true ∨ 2 ^ w ≤ x.value.toNat)
    (hc : c = if x.rc ≠ .success then ⟨x.rc, 0, x.endptr⟩
      else ⟨(signedNumber w codes wide x.negative x.value).1, (signedNumber w codes wide x.negative x.value).2, x.endptr⟩) :
    Outcome true x c := by
  subst hc
  by_cases hrc : x.rc = .success
  · rw [if_neg (not_not.2 hrc)]
    refine ⟨fun hne => absurd hrc hne, rfl, ?_, ?_⟩
    · intro _ hover hrep
      have hnarrow : wide = false := by
        refine Bool.eq_false_iff.2 fun h => ?_
        obtain h | h := hwide.1 h
        · exact Bool.false_ne_true (hover.symm.trans h)
        · cases hneg : x.negative with
          | true =>
            rw [hneg, representable_neg] at hrep
            obtain rfl | rfl := hw <;> omega
          | false =>
            rw [hneg, representable_pos] at hrep
            obtain rfl | rfl := hw <;> omega
      rw [hnarrow]
      obtain ⟨hsuccess, hvalue⟩ := @signedNumber_exact w codes x.negative x.value hw hrep
      exact ⟨hsuccess, (if_pos rfl).mpr hvalue⟩
    · intro _ hout
      have hsat : wide = true ∨ ¬Representable w true x.negative x.value.toNat :=
        hout.imp_left fun h => hwide.2 (.inl h)
      obtain ⟨hcode, hvalue⟩ := @signedNumber_saturates w codes wide x.negative x.value hw hsat
      refine ⟨?_, hvalue⟩
      simpa using hcode
  · rw [if_pos hrc]
    exact ⟨fun _ => rfl, rfl, fun h => absurd h hrc, fun h => absurd h hrc⟩

theorem strtol_outcome (str : List CChar) (base : Nat) : Outcome true (strtox str base) (strtol str base) := by
  have hmin : BitVec.intMin 32 = longMin := by decide
  have hmax : BitVec.intMax 32 = longMax := by decide
  unfold strtol
  generalize strtox str base = x
  refine @signed_outcome 32 longCodes (decide (x.overflow = true ∨ x.value ≠ (x.value.setWidth 32).setWidth 64)) _ _ (.inl rfl) ?_ ?_
  · rw [decide_eq_true_iff, ne_setWidth_iff]
  · unfold signedNumber
    simp only [decide_eq_true_eq, hmin, hmax]
    split_ifs <;> rfl

theorem strtoll_outcome (str : List CChar) (base : Nat) : Outcome true (strtox str base) (strtoll str base) := by
  have hmin : BitVec.intMin 64 = llongMin := by decide
  have hmax : BitVec.intMax 64 = llongMax := by decide
  unfold strtoll
  generalize strtox str base = x
  refine @signed_outcome 64 llongCodes x.overflow _ _ (.inr rfl) ?_ ?_
  · exact (or_iff_left (Nat.not_le.2 x.value.isLt)).symm
  · unfold signedNumber
    simp only [BitVec.setWidth_eq, hmin, hmax]
    split_ifs <;> rfl

/-! ## The unsigned types -/

section
variable {w : Nat} {x : Strtox}

/-- An unsigned type that has every number of at most `w` bits, negated after a minus sign. -/
theorem unsigned_outcome {code : StrtoxRc} {wide : Bool} {c : Converted w} (hw : w = 32 ∨ w = 64)
    (hcode : code.isOverflow = true) (hwide : wide = true ↔ x.overflow = true ∨ 2 ^ w ≤ x.value.toNat)
    (hc : c = if x.rc ≠ .success then ⟨x.rc, 0, x.endptr⟩
      else if wide then ⟨code, BitVec.allOnes w, x.endptr⟩
      else ⟨.success, if x.negative then ~~~(x.value.setWidth w) + 1 else x.value.setWidth w, x.endptr⟩) :
    Outcome false x c := by
  subst hc
  by_cases hrc : x.rc = .success
  · rw [if_neg (not_not.2 hrc)]
    have hrep : Representable w false x.negative x.value.toNat ↔ x.value.toNat < 2 ^ w := by
      unfold Representable
      rw [if_neg Bool.false_ne_true]
    refine ⟨fun hne => absurd hrc hne, ?_, ?_, ?_⟩
    · split_ifs <;> rfl
    · intro _ hover h
      rw [hrep] at h
      have hnarrow : wide = false := by
        refine Bool.eq_false_iff.2 fun hbig => ?_
        obtain hbig | hbig := hwide.1 hbig
        · exact Bool.false_ne_true (hover.symm.trans hbig)
        · omega
      rw [hnarrow, if_neg Bool.false_ne_true]
      refine ⟨rfl, ?_⟩
      rw [if_neg Bool.false_ne_true]
      unfold signedValue
      cases x.negative with
      | true =>
        have hneg : ~~~(x.value.setWidth w) + 1 = -(x.value.setWidth w) := (BitVec.neg_eq_not_add _).symm
        rw [if_pos rfl, if_pos rfl, hneg, BitVec.toNat_neg, BitVec.toNat_setWidth]
        obtain rfl | rfl := hw <;> omega
      | false =>
        rw [if_neg Bool.false_ne_true, if_neg Bool.false_ne_true, BitVec.toNat_setWidth]
        obtain rfl | rfl := hw <;> omega
    · intro _ hout
      rw [hrep] at hout
      have hbig : wide = true := hwide.2 (hout.imp_right Nat.not_lt.1)
      rw [hbig, if_pos rfl]
      exact ⟨(if_neg fun h => Bool.false_ne_true h.1).mpr hcode, rfl⟩
  · rw [if_pos hrc]
    exact ⟨fun _ => rfl, rfl, fun h => absurd h hrc, fun h => absurd h hrc⟩

end

theorem strtoul_outcome (str : List CChar) (base : Nat) : Outcome false (strtox str base) (strtoul str base) := by
  have hmax : BitVec.allOnes 32 = 0xFFFFFFFF := by decide
  unfold strtoul
  generalize strtox str base = x
  refine @unsigned_outcome 32 x .overflowStrtoul (decide (x.overflow = true ∨ x.value ≠ (x.value.setWidth 32).setWidth 64)) _
    (.inl rfl) rfl ?_ ?_
  · rw [decide_eq_true_iff, ne_setWidth_iff]
  · simp only [decide_eq_true_eq, hmax]
    split_ifs <;> rfl

theorem strtoull_outcome (str : List CChar) (base : Nat) : Outcome false (strtox str base) (strtoull str base) := by
  have hmax : BitVec.allOnes 64 = 0xFFFFFFFFFFFFFFFF := by decide
  unfold strtoull
  generalize strtox str base = x
  refine @unsigned_outcome 64 x .overflowStrtoull x.overflow _ (.inr rfl) rfl ?_ ?_
  · exact (or_iff_left (Nat.not_le.2 x.value.isLt)).symm
  · simp only [BitVec.setWidth_eq, hmax]
    split_ifs <;> rfl

/-! ## The four conversions -/

/-- Each of the four conversions meets the law exactly under its condition. -/
theorem convertLaw_all (str : List CChar) {base : Nat} (hbase : base = 0 ∨ 2 ≤ base ∧ base ≤ 36) :
    (ConvertLaw true str base (strtol str base) ↔ ConvertOk 32 true str base) ∧
      (ConvertLaw false str base (strtoul str base) ↔ ConvertOk 32 false str base) ∧
      (ConvertLaw true str base (strtoll str base) ↔ ConvertOk 64 true str base) ∧
      (ConvertLaw false str base (strtoull str base) ↔ ConvertOk 64 false str base) :=
  ⟨convertLaw_iff (by decide) hbase (strtol_outcome str base), convertLaw_iff (by decide) hbase (strtoul_outcome str base),
    convertLaw_iff (Nat.le_refl _) hbase (strtoll_outcome str base), convertLaw_iff (Nat.le_refl _) hbase (strtoull_outcome str base)⟩

/-- The law for " -12" with base 10. -/
theorem convertLaw_number : (ConvertLaw true (text " -12") 10 (strtol (text " -12") 10) ↔ ConvertOk 32 true (text " -12") 10) ∧
    (ConvertLaw false (text " -12") 10 (strtoul (text " -12") 10) ↔ ConvertOk 32 false (text " -12") 10) ∧
    (ConvertLaw true (text " -12") 10 (strtoll (text " -12") 10) ↔ ConvertOk 64 true (text " -12") 10) ∧
    (ConvertLaw false (text " -12") 10 (strtoull (text " -12") 10) ↔ ConvertOk 64 false (text " -12") 10) :=
  convertLaw_all (text " -12") (.inr ⟨by decide, by decide⟩)

theorem isDigits_of_map {r : Nat} {cs : List CChar} {ds : List Nat} (h : cs.map digitValue = ds.map some)
    (hlt : ∀ d ∈ ds, d < r) : IsDigits r cs ds := by
  induction cs generalizing ds with
  | nil =>
    obtain rfl := List.map_eq_nil_iff.1 h.symm
    exact .nil
  | cons c cs ih =>
    obtain ⟨d, ds, rfl, hd, htail⟩ := List.map_eq_cons_iff.1 h.symm
    exact .cons ⟨hd.symm, hlt d List.mem_cons_self⟩ (ih htail.symm fun e he => hlt e (List.mem_cons_of_mem _ he))

/-- 30000000000000000000 is more than 64 bits, but what it is modulo `2 ^ 64` is more than a tenth of it; and after the mark of "0xg"
there is no digit. -/
theorem wrap_unnoticed : ((strtoull (text "30000000000000000000") 10).rc = .success ∧
      ¬ConvertLaw false (text "30000000000000000000") 10 (strtoull (text "30000000000000000000") 10)) ∧
    ((strtol (text "0xg") 16).rc = .noConversionParse ∧ ¬ConvertLaw true (text "0xg") 16 (strtol (text "0xg") 16)) := by
  refine ⟨⟨by decide, fun hlaw => ?_⟩, ⟨by decide, fun hlaw => ?_⟩⟩
  · have hok := (convertLaw_iff (Nat.le_refl _) (.inr ⟨by decide, by decide⟩) (strtoull_outcome _ _)).1 hlaw
    have hspaces : skipWhitespace (text "30000000000000000000") = text "30000000000000000000" := by decide
    have hsigned : Signed (text "30000000000000000000") [] false (text "30000000000000000000") := .bare (by decide) (by decide)
    have hmarked : Marked 10 (text "30000000000000000000") [] 10 (text "30000000000000000000") :=
      .plain (by decide) fun h => absurd h (by decide)
    have hspan : Span 10 (text "30000000000000000000") (text "30000000000000000000") (3 :: List.replicate 19 0) [] :=
      ⟨rfl, isDigits_of_map (by decide) (by decide), by decide⟩
    have hlongest := (longest_of_span hsigned rfl hmarked rfl hspan (by decide)).1
    rw [← hspaces] at hlongest
    obtain hnoticed | hout := hok.wrap _ _ _ _ hlongest (by decide)
    · exact absurd ((accumulate_spec (w := 64) 10 (3 :: List.replicate 19 0)).1.2 hnoticed) (by decide)
    · exact hout (by decide : value 10 (3 :: List.replicate 19 0) % 2 ^ 64 < 2 ^ 64)
  · have hok := (convertLaw_iff (by decide) (.inr ⟨by decide, by decide⟩) (strtol_outcome _ _)).1 hlaw
    refine hok.mark ⟨.inr rfl, by decide, .inl (by decide), ?_⟩
    have hg : digitValue (deref ((sign (skipWhitespace (text "0xg"))).2.drop 2)) = some 16 := by decide
    rw [hg]
    rintro d ⟨⟩
    exact Nat.le_refl _

end Occ.Ppc405
