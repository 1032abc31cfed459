namespace ChainLint

inductive Utf8Error where
  | invalidStart
  | invalidContinuation
  | unexpectedEnd
  deriving DecidableEq, Repr

namespace Utf8Error

def message : Utf8Error → String
  | .invalidStart => "invalid start byte"
  | .invalidContinuation => "invalid continuation byte"
  | .unexpectedEnd => "unexpected end of data"

end Utf8Error

namespace Utf8

def encodeChar (c : Char) : List Nat :=
  let n := c.toNat
  if n < 0x80 then [n]
  else if n < 0x800 then [0xC0 + n / 0x40, 0x80 + n % 0x40]
  else if n < 0x10000 then [0xE0 + n / 0x1000, 0x80 + n / 0x40 % 0x40, 0x80 + n % 0x40]
  else [0xF0 + n / 0x40000, 0x80 + n / 0x1000 % 0x40, 0x80 + n / 0x40 % 0x40, 0x80 + n % 0x40]

theorem encodeChar_ne_nil (c : Char) : encodeChar c ≠ [] := by
  unfold encodeChar
  simp only
  split
  · simp
  · split
    · simp
    · split <;> simp

def encode (cs : List Char) : List Nat := cs.flatMap encodeChar

theorem encode_append (a b : List Char) : encode (a ++ b) = encode a ++ encode b := by
  simp [encode]

def isContinuation (b : Nat) : Bool := 0x80 ≤ b && b < 0xC0

/-- Whether `b` may follow the first byte `a`: the shortest form, no surrogate, no more than
`0x10FFFF`. -/
def mayFollow (a b : Nat) : Bool :=
  isContinuation b &&
    (a ≠ 0xE0 || 0xA0 ≤ b) && (a ≠ 0xED || b < 0xA0) &&
    (a ≠ 0xF0 || 0x90 ≤ b) && (a ≠ 0xF4 || b < 0x90)

def tailLength (a : Nat) : Option Nat :=
  if a < 0x80 then some 0
  else if 0xC2 ≤ a ∧ a < 0xE0 then some 1
  else if 0xE0 ≤ a ∧ a < 0xF0 then some 2
  else if 0xF0 ≤ a ∧ a < 0xF5 then some 3
  else none

def decodeChar : List Nat → Except Utf8Error (Char × Nat)
  | [] => .error .unexpectedEnd
  | a :: rest =>
      match tailLength a, rest with
      | none, _ => .error .invalidStart
      | some 0, _ => .ok (Char.ofNat a, 1)
      | some _, [] => .error .unexpectedEnd
      | some 1, b :: _ =>
          if mayFollow a b then .ok (Char.ofNat ((a - 0xC0) * 0x40 + (b - 0x80)), 2)
          else .error .invalidContinuation
      | some n, b :: rest =>
          if mayFollow a b then
            match rest with
            | [] => .error .unexpectedEnd
            | c :: rest =>
                if isContinuation c then
                  if n = 2 then
                    .ok (Char.ofNat ((a - 0xE0) * 0x1000 + (b - 0x80) * 0x40 + (c - 0x80)), 3)
                  else
                    match rest with
                    | [] => .error .unexpectedEnd
                    | d :: _ =>
                        if isContinuation d then
                          .ok (Char.ofNat ((a - 0xF0) * 0x40000 + (b - 0x80) * 0x1000 +
                            (c - 0x80) * 0x40 + (d - 0x80)), 4)
                        else .error .invalidContinuation
                else .error .invalidContinuation
          else .error .invalidContinuation

theorem decodeChar_encodeChar (c : Char) (rest : List Nat) :
    decodeChar (encodeChar c ++ rest) = .ok (c, (encodeChar c).length) := by
  have hv : c.toNat < 0xD800 ∨ 0xDFFF < c.toNat ∧ c.toNat < 0x110000 := c.valid
  have hc : Char.ofNat c.toNat = c := Char.ofNat_toNat c
  unfold encodeChar
  generalize c.toNat = n at hv hc ⊢
  simp only
  split
  · next h =>
      have ht : tailLength n = some 0 := by simp [tailLength, h]
      simp [decodeChar, ht, hc]
  · split
    · next h h' =>
        have ht : tailLength (0xC0 + n / 0x40) = some 1 := by
          simp only [tailLength]
          rw [if_neg (by omega), if_pos (by omega)]
        have hm : mayFollow (0xC0 + n / 0x40) (0x80 + n % 0x40) = true := by
          simp [mayFollow, isContinuation]; omega
        have hn : (0xC0 + n / 0x40 - 0xC0) * 0x40 + (0x80 + n % 0x40 - 0x80) = n := by omega
        simp only [List.cons_append, List.nil_append, decodeChar, ht, hm, hn, hc, if_true]
        rfl
    · split
      · next h h' h'' =>
          have ht : tailLength (0xE0 + n / 0x1000) = some 2 := by
            simp only [tailLength]
            rw [if_neg (by omega), if_neg (by omega), if_pos (by omega)]
          have hm : mayFollow (0xE0 + n / 0x1000) (0x80 + n / 0x40 % 0x40) = true := by
            simp [mayFollow, isContinuation]; omega
          have hk : isContinuation (0x80 + n % 0x40) = true := by
            simp [isContinuation]; omega
          have hn : (0xE0 + n / 0x1000 - 0xE0) * 0x1000 + (0x80 + n / 0x40 % 0x40 - 0x80) * 0x40 +
              (0x80 + n % 0x40 - 0x80) = n := by omega
          simp only [List.cons_append, List.nil_append, decodeChar, ht, hm, hk, hn, hc, if_true]
          rfl
      · next h h' h'' =>
          have ht : tailLength (0xF0 + n / 0x40000) = some 3 := by
            simp only [tailLength]
            rw [if_neg (by omega), if_neg (by omega), if_neg (by omega), if_pos (by omega)]
          have hm : mayFollow (0xF0 + n / 0x40000) (0x80 + n / 0x1000 % 0x40) = true := by
            simp [mayFollow, isContinuation]; omega
          have hk : isContinuation (0x80 + n / 0x40 % 0x40) = true := by
            simp [isContinuation]; omega
          have hk' : isContinuation (0x80 + n % 0x40) = true := by
            simp [isContinuation]; omega
          have hn : (0xF0 + n / 0x40000 - 0xF0) * 0x40000 +
              (0x80 + n / 0x1000 % 0x40 - 0x80) * 0x1000 +
              (0x80 + n / 0x40 % 0x40 - 0x80) * 0x40 + (0x80 + n % 0x40 - 0x80) = n := by omega
          simp only [List.cons_append, List.nil_append, decodeChar, ht, hm, hk, hk', hn, hc,
            if_true]
          rfl

theorem toNat_ofNat {n : Nat} (h : n.isValidChar) : (Char.ofNat n).toNat = n := by
  rw [Char.ofNat, dif_pos h]
  rfl

theorem encodeChar_ofNat {n : Nat} (h : n.isValidChar) : encodeChar (Char.ofNat n) =
    if n < 0x80 then [n]
    else if n < 0x800 then [0xC0 + n / 0x40, 0x80 + n % 0x40]
    else if n < 0x10000 then [0xE0 + n / 0x1000, 0x80 + n / 0x40 % 0x40, 0x80 + n % 0x40]
    else [0xF0 + n / 0x40000, 0x80 + n / 0x1000 % 0x40, 0x80 + n / 0x40 % 0x40,
      0x80 + n % 0x40] := by
  rw [encodeChar, toNat_ofNat h]

theorem encodeChar_one {a : Nat} (ha : a < 0x80) : encodeChar (Char.ofNat a) = [a] := by
  have hvalid : a.isValidChar := .inl (by omega)
  rw [encodeChar_ofNat hvalid, if_pos ha]

theorem encodeChar_two {a b : Nat} (ha : 0xC2 ≤ a ∧ a < 0xE0) (hb : mayFollow a b = true) :
    encodeChar (Char.ofNat ((a - 0xC0) * 0x40 + (b - 0x80))) = [a, b] := by
  simp only [mayFollow, isContinuation, Bool.and_eq_true, Bool.or_eq_true, decide_eq_true_eq] at hb
  have hvalid : ((a - 0xC0) * 0x40 + (b - 0x80)).isValidChar := .inl (by omega)
  rw [encodeChar_ofNat hvalid, if_neg (by omega), if_pos (by omega)]
  simp only [List.cons.injEq, and_true]
  omega

theorem encodeChar_three {a b c : Nat} (ha : 0xE0 ≤ a ∧ a < 0xF0) (hb : mayFollow a b = true)
    (hc : isContinuation c = true) :
    encodeChar (Char.ofNat ((a - 0xE0) * 0x1000 + (b - 0x80) * 0x40 + (c - 0x80))) = [a, b, c] := by
  simp only [mayFollow, isContinuation, Bool.and_eq_true, Bool.or_eq_true, decide_eq_true_eq] at hb hc
  have hvalid : ((a - 0xE0) * 0x1000 + (b - 0x80) * 0x40 + (c - 0x80)).isValidChar := by
    unfold Nat.isValidChar
    omega
  rw [encodeChar_ofNat hvalid, if_neg (by omega), if_neg (by omega), if_pos (by omega)]
  simp only [List.cons.injEq, and_true]
  omega

theorem encodeChar_four {a b c d : Nat} (ha : 0xF0 ≤ a ∧ a < 0xF5) (hb : mayFollow a b = true)
    (hc : isContinuation c = true) (hd : isContinuation d = true) :
    encodeChar (Char.ofNat ((a - 0xF0) * 0x40000 + (b - 0x80) * 0x1000 + (c - 0x80) * 0x40 +
      (d - 0x80))) = [a, b, c, d] := by
  simp only [mayFollow, isContinuation, Bool.and_eq_true, Bool.or_eq_true, decide_eq_true_eq]
    at hb hc hd
  have hvalid : ((a - 0xF0) * 0x40000 + (b - 0x80) * 0x1000 + (c - 0x80) * 0x40 +
      (d - 0x80)).isValidChar := by
    unfold Nat.isValidChar
    omega
  rw [encodeChar_ofNat hvalid, if_neg (by omega), if_neg (by omega), if_neg (by omega)]
  simp only [List.cons.injEq, and_true]
  omega

theorem tailLength_eq_some {a n : Nat} (h : tailLength a = some n) :
    (n = 0 ∧ a < 0x80) ∨ (n = 1 ∧ 0xC2 ≤ a ∧ a < 0xE0) ∨ (n = 2 ∧ 0xE0 ≤ a ∧ a < 0xF0) ∨
      (n = 3 ∧ 0xF0 ≤ a ∧ a < 0xF5) := by
  unfold tailLength at h
  split at h
  · next ha => exact .inl ⟨(Option.some.inj h).symm, ha⟩
  · split at h
    · next ha => exact .inr (.inl ⟨(Option.some.inj h).symm, ha⟩)
    · split at h
      · next ha => exact .inr (.inr (.inl ⟨(Option.some.inj h).symm, ha⟩))
      · split at h
        · next ha => exact .inr (.inr (.inr ⟨(Option.some.inj h).symm, ha⟩))
        · cases h

theorem eq_of_decodeChar {bytes : List Nat} {c : Char} {n : Nat} (h : decodeChar bytes = .ok (c, n)) :
    ∃ rest, bytes = encodeChar c ++ rest ∧ n = (encodeChar c).length := by
  revert h
  fun_cases decodeChar bytes with
  | case3 a rest ha =>
      intro h
      obtain ⟨rfl, rfl⟩ := Prod.mk.inj (Except.ok.inj h)
      have hfirst := tailLength_eq_some ha
      rw [encodeChar_one (by omega)]
      exact ⟨rest, rfl, rfl⟩
  | case5 a b rest ha hb =>
      intro h
      obtain ⟨rfl, rfl⟩ := Prod.mk.inj (Except.ok.inj h)
      have hfirst := tailLength_eq_some ha
      rw [encodeChar_two (by omega) hb]
      exact ⟨rest, rfl, rfl⟩
  | case8 a b hb c rest hc _ _ ha =>
      intro h
      obtain ⟨rfl, rfl⟩ := Prod.mk.inj (Except.ok.inj h)
      have hfirst := tailLength_eq_some ha
      rw [encodeChar_three (by omega) hb hc]
      exact ⟨rest, rfl, rfl⟩
  | case10 a n b h₀ h₁ ha hb c hc h₂ d rest hd =>
      intro h
      obtain ⟨rfl, rfl⟩ := Prod.mk.inj (Except.ok.inj h)
      have hfirst : 0xF0 ≤ a ∧ a < 0xF5 := by
        rcases tailLength_eq_some ha with ⟨hn, -⟩ | ⟨hn, -⟩ | ⟨hn, -⟩ | ⟨-, hfirst⟩
        · exact absurd hn h₀
        · exact absurd hn h₁
        · exact absurd hn h₂
        · exact hfirst
      rw [encodeChar_four hfirst hb hc hd]
      exact ⟨rest, rfl, rfl⟩
  | _ => exact nofun

def decodeFrom : Nat → Nat → List Nat → Except (Utf8Error × Nat) (List Char)
  | _, _, [] => .ok []
  | place, skip + 1, _ :: rest => decodeFrom (place + 1) skip rest
  | place, 0, b :: rest =>
      match decodeChar (b :: rest) with
      | .error e => .error (e, place)
      | .ok (c, n) =>
          match decodeFrom (place + 1) (n - 1) rest with
          | .error e => .error e
          | .ok cs => .ok (c :: cs)

theorem decodeFrom_skip (place : Nat) (bytes rest : List Nat) :
    decodeFrom place bytes.length (bytes ++ rest) = decodeFrom (place + bytes.length) 0 rest := by
  induction bytes generalizing place with
  | nil => rfl
  | cons b bs ih =>
      simp only [List.length_cons, List.cons_append, decodeFrom]
      rw [ih, Nat.add_right_comm]
      rfl

theorem decodeFrom_encode (place : Nat) (cs : List Char) :
    decodeFrom place 0 (encode cs) = .ok cs := by
  induction cs generalizing place with
  | nil => rfl
  | cons c cs ih =>
      have hd := decodeChar_encodeChar c (encode cs)
      change decodeFrom place 0 (encodeChar c ++ encode cs) = _
      cases he : encodeChar c with
      | nil => exact absurd he (encodeChar_ne_nil c)
      | cons b bs =>
          rw [he] at hd
          simp only [List.cons_append] at hd ⊢
          simp only [decodeFrom, hd, List.length_cons, Nat.add_sub_cancel, decodeFrom_skip, ih]

theorem encode_of_decodeFrom {place : Nat} {bytes : List Nat} {cs : List Char}
    (h : decodeFrom place 0 bytes = .ok cs) : encode cs = bytes := by
  induction hn : bytes.length using Nat.strongRecOn generalizing place bytes cs with
  | ind n ih =>
      cases bytes with
      | nil =>
          cases h
          rfl
      | cons b bs =>
          cases hc : decodeChar (b :: bs) with
          | error e =>
              rw [decodeFrom, hc] at h
              cases h
          | ok r =>
              obtain ⟨c, k⟩ := r
              obtain ⟨rest, hbytes, rfl⟩ := eq_of_decodeChar hc
              obtain ⟨b', tail, htail⟩ := List.exists_cons_of_ne_nil (encodeChar_ne_nil c)
              rw [htail, List.cons_append] at hbytes
              obtain ⟨rfl, rfl⟩ := List.cons.inj hbytes
              rw [decodeFrom, hc] at h
              simp only [htail, List.length_cons, Nat.add_sub_cancel, decodeFrom_skip] at h
              cases hrest : decodeFrom (place + 1 + tail.length) 0 rest with
              | error e =>
                  rw [hrest] at h
                  cases h
              | ok cs' =>
                  rw [hrest] at h
                  cases h
                  have hlength : rest.length < n := by
                    rw [← hn, List.length_cons, List.length_append]
                    omega
                  have hencode := ih rest.length hlength hrest rfl
                  change encodeChar c ++ encode cs' = _
                  rw [hencode, htail, List.cons_append]

def decode (bytes : List Nat) : Except (Utf8Error × Nat) (List Char) := decodeFrom 0 0 bytes

theorem decode_encode (cs : List Char) : decode (encode cs) = .ok cs := decodeFrom_encode 0 cs

theorem encode_of_decode {bytes : List Nat} {cs : List Char} (h : decode bytes = .ok cs) :
    encode cs = bytes :=
  encode_of_decodeFrom h

end Utf8

end ChainLint
