import Blueprint.Uuid

/-!
# Texts of identifiers

The text of an identifier holds all its bytes, so different identifiers of one size have different
texts.
-/

namespace Blueprint

namespace Hash

theorem valueFrom?_hexDigits : ∀ n < 256,
    Text.valueFrom? 16 0 (Text.hexDigits 2 n).toList = some n := by
  decide +kernel

theorem length_hexDigits : ∀ n < 256, (Text.hexDigits 2 n).toList.length = 2 := by
  decide +kernel

theorem toList_hex (bs : List UInt8) :
    (hex bs).toList = bs.flatMap fun b => (Text.hexDigits 2 b.toNat).toList := by
  rw [hex, String.toList_join, List.flatMap_map]

theorem length_hex (bs : List UInt8) : (hex bs).toList.length = 2 * bs.length := by
  rw [toList_hex]
  induction bs with
  | nil => rfl
  | cons b bs ih =>
    rw [List.flatMap_cons, List.length_append, length_hexDigits _ b.toNat_lt, ih, List.length_cons]
    omega

theorem hex_inj {as bs : List UInt8} (h : hex as = hex bs) : as = bs := by
  have same := congrArg String.toList h
  have lengths : as.length = bs.length := by
    have doubled := length_hex as
    rw [h, length_hex] at doubled
    omega
  rw [toList_hex, toList_hex] at same
  clear h
  induction as generalizing bs with
  | nil => exact (List.length_eq_zero_iff.mp lengths.symm).symm
  | cons a as ih =>
    cases bs with
    | nil => cases lengths
    | cons b bs =>
      obtain ⟨first, rest⟩ := List.append_inj same
        (by rw [length_hexDigits _ a.toNat_lt, length_hexDigits _ b.toNat_lt])
      have value := congrArg (Text.valueFrom? 16 0) first
      rw [valueFrom?_hexDigits _ a.toNat_lt, valueFrom?_hexDigits _ b.toNat_lt] at value
      rw [UInt8.toNat_inj.mp (Option.some.inj value), ih rest (Nat.succ.inj lengths)]

end Hash

namespace Uuid

theorem eq_of_take_drop {α : Type} {xs ys : List α} {n : Nat} (first : xs.take n = ys.take n)
    (rest : xs.drop n = ys.drop n) : xs = ys := by
  rw [← List.take_append_drop n xs, first, rest, List.take_append_drop]

theorem toList_text (u : Uuid) : u.text.toList =
    let h := (Hash.hex u.bytes).toList
    h.take 8 ++ '-' :: ((h.drop 8).take 4 ++ '-' :: ((h.drop 12).take 4 ++ '-' ::
      ((h.drop 16).take 4 ++ '-' :: (h.drop 20).take 12))) := by
  simp [text]

theorem text_inj {u v : Uuid} (hu : u.bytes.length = 16) (hv : v.bytes.length = 16)
    (h : u.text = v.text) : u = v := by
  have groups := congrArg String.toList h
  rw [toList_text, toList_text] at groups
  have left : (Hash.hex u.bytes).toList.length = 32 := by rw [Hash.length_hex, hu]
  have right : (Hash.hex v.bytes).toList.length = 32 := by rw [Hash.length_hex, hv]
  suffices same : (Hash.hex u.bytes).toList = (Hash.hex v.bytes).toList by
    cases u
    cases v
    exact congrArg Uuid.mk (Hash.hex_inj (String.toList_inj.mp same))
  generalize (Hash.hex u.bytes).toList = xs at groups left ⊢
  generalize (Hash.hex v.bytes).toList = ys at groups right ⊢
  dsimp only at groups
  obtain ⟨first, groups⟩ := List.append_inj groups (by simp [left, right])
  obtain ⟨second, groups⟩ := List.append_inj (List.cons.inj groups).2 (by simp [left, right])
  obtain ⟨third, groups⟩ := List.append_inj (List.cons.inj groups).2 (by simp [left, right])
  obtain ⟨fourth, groups⟩ := List.append_inj (List.cons.inj groups).2 (by simp [left, right])
  have fifth := (List.cons.inj groups).2
  rw [List.take_of_length_le (by simp [left]), List.take_of_length_le (by simp [right])] at fifth
  refine eq_of_take_drop first (eq_of_take_drop second ?_)
  rw [List.drop_drop, List.drop_drop]
  refine eq_of_take_drop third ?_
  rw [List.drop_drop, List.drop_drop]
  refine eq_of_take_drop fourth ?_
  rw [List.drop_drop, List.drop_drop]
  exact fifth

theorem length_ofName (space : Uuid) (name : String) : (ofName space name).bytes.length = 16 := by
  simp [ofName, Hash.Sha1.hash, Hash.bytesBig, Hash.bytesLittle]

end Uuid

end Blueprint
