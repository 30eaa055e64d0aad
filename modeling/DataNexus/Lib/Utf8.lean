/-
  UTF-8 of whole strings: `str::as_bytes` and `str::from_utf8`.

  * `fromUtf8_eq_some` — bytes are read as a string iff they are its encoding;
  * `zero_mem_toUtf8` — a zero byte is a NUL character.
-/
import DataNexus.Lib.Text

namespace DataNexus.Utf8

open Text

/-- `str::as_bytes`. -/
def toUtf8 (s : String) : List UInt8 := utf8 s.toList

def fromUtf8 (bytes : List UInt8) : Option String := String.fromUTF8? bytes.toByteArray

theorem toByteArray_toUtf8 (s : String) : (toUtf8 s).toByteArray = s.toByteArray := by
  rw [← String.utf8Encode_toList]
  rfl

variable {s : String}

/-- **Bytes are read as a string iff they are its encoding.** -/
theorem fromUtf8_eq_some {bytes : List UInt8} : fromUtf8 bytes = some s ↔ bytes = toUtf8 s := by
  unfold fromUtf8 String.fromUTF8?
  constructor
  · intro h
    split_ifs at h with hvalid
    obtain rfl := Option.some.inj h
    have hbytes := toByteArray_toUtf8 (String.fromUTF8 bytes.toByteArray hvalid)
    exact (List.toByteArray_inj.mp hbytes).symm
  · rintro rfl
    rw [toByteArray_toUtf8, dif_pos s.isValidUTF8]
    rfl

theorem fromUtf8_toUtf8 (s : String) : fromUtf8 (toUtf8 s) = some s := fromUtf8_eq_some.mpr rfl

theorem toUtf8_inj {s t : String} : toUtf8 s = toUtf8 t ↔ s = t := by
  constructor
  · intro h
    have hs := fromUtf8_toUtf8 s
    rw [h, fromUtf8_toUtf8] at hs
    exact (Option.some.inj hs).symm
  · rintro rfl
    rfl

theorem zero_mem_utf8EncodeChar {c : Char} : 0 ∈ String.utf8EncodeChar c ↔ c = '\x00' := by
  constructor
  · intro h
    have hlt : ∀ n : Nat, 0 < n → n < 256 → (0 : UInt8) ≠ UInt8.ofNat n := by
      intro n hpos hn heq
      have := congrArg UInt8.toNat heq
      rw [UInt8.toNat_ofNat_of_lt' hn] at this
      have hzero : (0 : UInt8).toNat = 0 := rfl
      omega
    unfold String.utf8EncodeChar at h
    dsimp only at h
    split_ifs at h with h1 h2 h3
    · -- one byte: the code point
      have hval : c.val.toNat = 0 := by
        by_contra hne
        exact hlt c.val.toNat (Nat.pos_of_ne_zero hne) (by omega) (List.mem_singleton.mp h)
      exact Char.ext (UInt32.toNat.inj hval)
    · simp only [List.mem_cons, List.not_mem_nil, or_false] at h
      rcases h with h | h
      · exact absurd h (hlt _ (by omega) (by omega))
      · exact absurd h (hlt _ (by omega) (by omega))
    · simp only [List.mem_cons, List.not_mem_nil, or_false] at h
      rcases h with h | h | h
      · exact absurd h (hlt _ (by omega) (by omega))
      · exact absurd h (hlt _ (by omega) (by omega))
      · exact absurd h (hlt _ (by omega) (by omega))
    · simp only [List.mem_cons, List.not_mem_nil, or_false] at h
      rcases h with h | h | h | h
      · exact absurd h (hlt _ (by omega) (by omega))
      · exact absurd h (hlt _ (by omega) (by omega))
      · exact absurd h (hlt _ (by omega) (by omega))
      · exact absurd h (hlt _ (by omega) (by omega))
  · rintro rfl
    decide

theorem zero_mem_toUtf8 : 0 ∈ toUtf8 s ↔ '\x00' ∈ s.toList := by
  unfold toUtf8 utf8
  rw [List.mem_flatMap]
  constructor
  · rintro ⟨c, hc, h0⟩
    exact zero_mem_utf8EncodeChar.mp h0 ▸ hc
  · intro h
    exact ⟨_, h, zero_mem_utf8EncodeChar.mpr rfl⟩

end DataNexus.Utf8
