/-!
# The order of bytes

Texts are ordered by their characters, and their files by bytes. The two orders are one: of two
characters the smaller one has the smaller bytes, and neither's bytes start the other's.

* `Parted`: two rows of bytes part at some place, and the first one is smaller there.
* `parted_encode`: the bytes of two characters part.
* `bytes_lt`: a smaller text has smaller bytes.
-/

namespace SdkGen.ByteOrder

/-- The bytes of a text in its encoding. -/
def bytes (s : String) : List UInt8 := s.toUTF8.data.toList

/-- The two rows part at some place, where the first one has the smaller byte. -/
inductive Parted : List UInt8 → List UInt8 → Prop
  | here {x y : UInt8} {r s : List UInt8} (h : x < y) : Parted (x :: r) (y :: s)
  | later {x : UInt8} {r s : List UInt8} (h : Parted r s) : Parted (x :: r) (x :: s)

variable {a b : List UInt8} {m n v w : Nat} {c d : Char} {s t : String}

/-- Whatever follows, rows that part are in order. -/
theorem Parted.append_lt (h : Parted a b) (r s : List UInt8) : a ++ r < b ++ s := by
  induction h with
  | here h => exact List.cons_lt_cons_iff.2 (.inl h)
  | later _ ih => exact List.cons_lt_cons_iff.2 (.inr ⟨rfl, ih⟩)

theorem ofNat_lt (h : m < n) (hn : n < 256) : UInt8.ofNat m < UInt8.ofNat n := by
  rw [UInt8.lt_iff_toNat_lt, UInt8.toNat_ofNat', UInt8.toNat_ofNat',
    Nat.mod_eq_of_lt (by omega), Nat.mod_eq_of_lt (by omega)]
  exact h

/-- Rows part by their first bytes, or behind them where these are equal. -/
theorem parted_cons (hn : n < 256) (h : m < n ∨ m = n ∧ Parted a b) :
    Parted (UInt8.ofNat m :: a) (UInt8.ofNat n :: b) := by
  rcases h with hlt | ⟨rfl, hlater⟩
  · exact .here (ofNat_lt hlt hn)
  · exact .later hlater

/-- The byte behind the first one that stands for some digit of a character's number. -/
def digit (n : Nat) : UInt8 := UInt8.ofNat (n % 64 + 128)

theorem parted_digit (h : m % 64 < n % 64 ∨ m % 64 = n % 64 ∧ Parted a b) :
    Parted (digit m :: a) (digit n :: b) := by
  have hlt := Nat.mod_lt n (show 64 > 0 by decide)
  refine parted_cons (by omega) ?_
  rcases h with h | ⟨h, hlater⟩
  · exact .inl (by omega)
  · exact .inr ⟨by omega, hlater⟩

theorem parted_one (h : v % 64 < w % 64) : Parted [digit v] [digit w] :=
  parted_digit (.inl h)

theorem parted_two (h : v % 4096 < w % 4096) :
    Parted [digit (v / 64), digit v] [digit (w / 64), digit w] := by
  refine parted_digit ?_
  rcases Nat.lt_or_ge (v / 64 % 64) (w / 64 % 64) with hlt | hge
  · exact .inl hlt
  · exact .inr ⟨by omega, parted_one (by omega)⟩

theorem parted_three (h : v % 262144 < w % 262144) :
    Parted [digit (v / 4096), digit (v / 64), digit v]
      [digit (w / 4096), digit (w / 64), digit w] := by
  refine parted_digit ?_
  rcases Nat.lt_or_ge (v / 4096 % 64) (w / 4096 % 64) with hlt | hge
  · exact .inl hlt
  · exact .inr ⟨by omega, parted_two (by omega)⟩

/-- **The bytes of two characters part, and the smaller character has the smaller byte there.** -/
theorem parted_encode (h : c < d) : Parted (String.utf8EncodeChar c) (String.utf8EncodeChar d) := by
  have hlt : c.val.toNat < d.val.toNat := h
  have hmax : d.val.toNat < 0x110000 := by
    rcases d.valid with hd | hd
    · exact Nat.lt_trans hd (by decide)
    · exact hd.2
  unfold String.utf8EncodeChar
  generalize c.val.toNat = v at hlt ⊢
  generalize d.val.toNat = w at hlt hmax ⊢
  dsimp only
  -- the first byte tells how many follow; of characters with equally many, it may be equal
  by_cases h1 : w ≤ 127
  · rw [if_pos (by omega : v ≤ 127), if_pos h1]
    exact parted_cons (by omega) (.inl hlt)
  rw [if_neg h1]
  by_cases h2 : w ≤ 2047
  · rw [if_pos h2]
    split
    · exact parted_cons (by omega) (.inl (by omega))
    rw [if_pos (by omega : v ≤ 2047)]
    refine parted_cons (by omega) ?_
    rcases Nat.lt_or_ge (v / 64) (w / 64) with h | h
    · exact .inl (by omega)
    · exact .inr ⟨by omega, parted_one (by omega)⟩
  rw [if_neg h2]
  by_cases h3 : w ≤ 65535
  · rw [if_pos h3]
    split
    · exact parted_cons (by omega) (.inl (by omega))
    split
    · exact parted_cons (by omega) (.inl (by omega))
    rw [if_pos (by omega : v ≤ 65535)]
    refine parted_cons (by omega) ?_
    rcases Nat.lt_or_ge (v / 4096) (w / 4096) with h | h
    · exact .inl (by omega)
    · exact .inr ⟨by omega, parted_two (by omega)⟩
  rw [if_neg h3]
  split
  · exact parted_cons (by omega) (.inl (by omega))
  split
  · exact parted_cons (by omega) (.inl (by omega))
  split
  · exact parted_cons (by omega) (.inl (by omega))
  refine parted_cons (by omega) ?_
  rcases Nat.lt_or_ge (v / 262144) (w / 262144) with h | h
  · exact .inl (by omega)
  · exact .inr ⟨by omega, parted_three (by omega)⟩

theorem encode_lt {cs ds : List Char} (h : cs < ds) :
    cs.flatMap String.utf8EncodeChar < ds.flatMap String.utf8EncodeChar := by
  induction h with
  | @nil d ds =>
    obtain ⟨x, r, hx⟩ := List.exists_cons_of_ne_nil (String.utf8EncodeChar_ne_nil (c := d))
    rw [List.flatMap_nil, List.flatMap_cons, hx]
    exact List.nil_lt_cons ..
  | cons _ ih =>
    rw [List.flatMap_cons, List.flatMap_cons]
    exact List.append_left_lt ih
  | rel h =>
    rw [List.flatMap_cons, List.flatMap_cons]
    exact (parted_encode h).append_lt _ _

theorem bytes_eq (s : String) : bytes s = s.toList.flatMap String.utf8EncodeChar := by
  unfold bytes String.toUTF8
  rw [← String.utf8Encode_toList]
  exact List.toList_data_toByteArray

/-- **A smaller text has smaller bytes.** -/
theorem bytes_lt (h : s < t) : bytes s < bytes t := by
  rw [bytes_eq, bytes_eq]
  exact encode_lt h

end SdkGen.ByteOrder
