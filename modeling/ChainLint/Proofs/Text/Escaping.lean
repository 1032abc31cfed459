import ChainLint.Text.Escape
import ChainLint.Token.Lexer
import Mathlib.Data.List.Forall2

namespace ChainLint

theorem Utf8.lt_of_mem_encodeChar {c : Char} {b : Nat} (h : b ∈ encodeChar c) : b < 0x100 := by
  have hc : c.toNat < 0x110000 := by
    rcases c.valid with hv | ⟨-, hv⟩
    · exact Nat.lt_trans hv (by decide)
    · exact hv
  unfold encodeChar at h
  simp only at h
  split at h
  · simp at h
    omega
  · split at h
    · simp at h
      omega
    · split at h <;> simp at h <;> omega

namespace Escape

def IsHex (n : Nat) (c : Char) : Prop := c = n.digitChar ∨ c = n.digitChar.toUpper

theorem IsHex.hexDigit? {n : Nat} {c : Char} (hn : n < 16) (h : IsHex n c) :
    hexDigit? c = some n := by
  have hall : ∀ n < 16, Escape.hexDigit? n.digitChar = some n ∧
      Escape.hexDigit? n.digitChar.toUpper = some n := by decide
  rcases h with rfl | rfl
  · exact (hall n hn).1
  · exact (hall n hn).2

def IsByte (b : Nat) (d : Char × Char) : Prop := IsHex (b / 16) d.1 ∧ IsHex (b % 16) d.2

def byteEscape (d : Char × Char) : List Char := ['\\', 'x', d.1, d.2]

def shorthands : List (Char × Char) :=
  [('\n', 'n'), ('\t', 't'), ('\r', 'r'), ('\\', '\\'), ('"', '"')]

inductive Writes : List Char → List Char → Prop where
  | nil : Writes [] []
  | raw {c : Char} {s body : List Char} (hquote : c ≠ '"') (hslash : c ≠ '\\')
      (h : Writes s body) : Writes (c :: s) (c :: body)
  | bytes {c : Char} {digits : List (Char × Char)} {s body : List Char}
      (hdigits : List.Forall₂ IsByte (Utf8.encodeChar c) digits) (h : Writes s body) :
      Writes (c :: s) (digits.flatMap byteEscape ++ body)
  | short {c letter : Char} {s body : List Char} (hc : (c, letter) ∈ shorthands)
      (h : Writes s body) : Writes (c :: s) ('\\' :: letter :: body)

theorem ne_of_hexDigit? {c : Char} {n : Nat} (h : hexDigit? c = some n) : c ≠ '"' ∧ c ≠ '\\' := by
  constructor
  · rintro rfl
    cases (by decide : hexDigit? '"' = none).symm.trans h
  · rintro rfl
    cases (by decide : hexDigit? '\\' = none).symm.trans h

end Escape

namespace Lexer

theorem stringBody_raw {c : Char} (hquote : c ≠ '"') (hslash : c ≠ '\\') (cs : List Char) :
    stringBody (c :: cs) = (stringBody cs).map (c :: ·) := by
  rw [stringBody]
  · exact hquote
  · exact fun h _ => hslash h
  · exact fun _ _ h _ => hslash h

theorem stringBody_escape {c : Char} (h : c ≠ '\n') (cs : List Char) :
    stringBody ('\\' :: c :: cs) = (stringBody cs).map ('\\' :: c :: ·) := by
  rw [stringBody, if_neg h]

end Lexer

namespace Escape

open Lexer

variable {s body : List Char}

theorem stringBody_bytes {bs : List Nat} {ds : List (Char × Char)} (h : List.Forall₂ IsByte bs ds)
    (hbs : ∀ b ∈ bs, b < 0x100) (cs : List Char) :
    stringBody (ds.flatMap byteEscape ++ cs) = (stringBody cs).map (ds.flatMap byteEscape ++ ·) := by
  induction h with
  | nil => simp
  | @cons b d bs ds hd _ ih =>
      have hb := hbs b List.mem_cons_self
      obtain ⟨hhigh, hslash⟩ := ne_of_hexDigit? (hd.1.hexDigit? (by omega))
      obtain ⟨hlow, hslash'⟩ := ne_of_hexDigit? (hd.2.hexDigit? (by omega))
      have hrest := ih fun b hb => hbs b (List.mem_cons_of_mem _ hb)
      simp only [List.flatMap_cons, byteEscape, List.cons_append, List.nil_append]
      rw [stringBody_escape (by decide), stringBody_raw hhigh hslash, stringBody_raw hlow hslash',
        hrest]
      simp [Function.comp_def]

theorem Writes.stringBody (h : Writes s body) (rest : List Char) :
    stringBody (body ++ '"' :: rest) = some (body ++ ['"']) := by
  induction h with
  | nil => rfl
  | raw hquote hslash _ ih =>
      rw [List.cons_append, stringBody_raw hquote hslash, ih]
      rfl
  | bytes hdigits _ ih =>
      rw [List.append_assoc, stringBody_bytes hdigits fun b hb => Utf8.lt_of_mem_encodeChar hb, ih]
      simp
  | short hc _ ih =>
      rw [List.cons_append, List.cons_append, stringBody_escape ?_, ih]
      · rfl
      · simp only [shorthands, List.mem_cons, Prod.mk.injEq, List.not_mem_nil, or_false] at hc
        rcases hc with ⟨-, rfl⟩ | ⟨-, rfl⟩ | ⟨-, rfl⟩ | ⟨-, rfl⟩ | ⟨-, rfl⟩ <;> decide

theorem codes_raw {c : Char} (h : c ≠ '\\') (n : Nat) (cs : List Char) :
    codes (n + 1) (c :: cs) = (codes n cs).map (Utf8.encodeChar c ++ ·) := by
  rw [codes, if_neg h]

theorem codes_escape {cs rest : List Char} {out : List Nat} (h : escape? cs = some (out, rest))
    (n : Nat) : codes (n + 1) ('\\' :: cs) = (codes n rest).map (out ++ ·) := by
  rw [codes, if_pos rfl, h]

theorem escape?_byte {b : Nat} (hb : b < 0x100) {d : Char × Char} (hd : IsByte b d)
    (cs : List Char) : escape? ('x' :: d.1 :: d.2 :: cs) = some ([b], cs) := by
  have hhigh := hd.1.hexDigit? (by omega)
  have hlow := hd.2.hexDigit? (by omega)
  have hsum : 16 * (16 * 0 + b / 16) + b % 16 = b := by omega
  simp only [escape?, hexNumber, hhigh, hlow, hsum]
  rfl

theorem codes_bytes {bs out : List Nat} {ds : List (Char × Char)} (h : List.Forall₂ IsByte bs ds)
    (hbs : ∀ b ∈ bs, b < 0x100) {cs : List Char}
    (hcs : ∀ {n}, cs.length ≤ n → codes n cs = some out) {n : Nat}
    (hn : (ds.flatMap byteEscape ++ cs).length ≤ n) :
    codes n (ds.flatMap byteEscape ++ cs) = some (bs ++ out) := by
  induction h generalizing n with
  | nil => exact hcs hn
  | @cons b d bs ds hd _ ih =>
      simp only [List.flatMap_cons, byteEscape, List.cons_append, List.nil_append,
        List.length_cons] at hn ⊢
      obtain ⟨n, rfl⟩ : ∃ k, n = k + 1 := ⟨n - 1, by omega⟩
      rw [codes_escape (escape?_byte (hbs b List.mem_cons_self) hd _)]
      rw [ih (fun b hb => hbs b (List.mem_cons_of_mem _ hb)) (by omega)]
      rfl

theorem Writes.codes (h : Writes s body) {n : Nat} (hn : body.length ≤ n) :
    codes n body = some (Utf8.encode s) := by
  induction h generalizing n with
  | nil =>
      cases n <;> rfl
  | raw _ hslash _ ih =>
      rw [List.length_cons] at hn
      obtain ⟨n, rfl⟩ : ∃ k, n = k + 1 := ⟨n - 1, by omega⟩
      rw [codes_raw hslash, ih (by omega)]
      rfl
  | bytes hdigits _ ih =>
      exact codes_bytes hdigits (fun b hb => Utf8.lt_of_mem_encodeChar hb) ih hn
  | short hc _ ih =>
      simp only [List.length_cons] at hn
      obtain ⟨n, rfl⟩ : ∃ k, n = k + 1 := ⟨n - 1, by omega⟩
      simp only [shorthands, List.mem_cons, Prod.mk.injEq, List.not_mem_nil, or_false] at hc
      rcases hc with ⟨rfl, rfl⟩ | ⟨rfl, rfl⟩ | ⟨rfl, rfl⟩ | ⟨rfl, rfl⟩ | ⟨rfl, rfl⟩ <;>
        · rw [codes_escape rfl, ih (by omega)]
          rfl

theorem Writes.decode (h : Writes s body) : decode body = .ok s := by
  have hbytes : (Utf8.encode s).any (0xFF < ·) = false := by
    rw [List.any_eq_false]
    intro b hb
    obtain ⟨c, -, hb⟩ := List.mem_flatMap.mp hb
    have := Utf8.lt_of_mem_encodeChar hb
    simp only [decide_eq_true_eq]
    omega
  simp [Escape.decode, h.codes (Nat.le_refl _), hbytes, Utf8.decode_encode]

end Escape

end ChainLint
