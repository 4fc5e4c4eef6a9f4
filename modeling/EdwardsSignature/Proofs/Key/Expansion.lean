import EdwardsSignature.Key.Expansion
import EdwardsSignature.Proofs.Bytes.LittleEndian

/-!
# Clamping as arithmetic

Clamping clears and sets bits of two bytes. As numbers, what remains are the bits from `2 ^ 3` to
`2 ^ 253`, with the bit `2 ^ 254` above them (`toNat_clamp`). So a clamped number is a multiple of
eight of 255 bits (`eight_dvd_toNat_clamp`, `le_toNat_clamp`, `toNat_clamp_lt`), and clamping it once
more leaves it as it is (`clamp_clamp`).
-/

namespace EdwardsSignature

/-- The first byte loses its three lowest bits. -/
theorem toNat_clear_low (b : UInt8) : (b &&& 248).toNat = 8 * (b.toNat / 8) := by
  have h : ∀ n < 256, n &&& 248 = 8 * (n / 8) := by decide +kernel
  rw [UInt8.toNat_and]
  exact h b.toNat b.toNat_lt

/-- The last byte loses its highest bit, and has the second highest one set. -/
theorem toNat_set_high (b : UInt8) : (b &&& 127 ||| 64).toNat = 64 + b.toNat % 64 := by
  have h : ∀ n < 256, n &&& 127 ||| 64 = 64 + n % 64 := by decide +kernel
  rw [UInt8.toNat_or, UInt8.toNat_and]
  exact h b.toNat b.toNat_lt

/-- The number that clamping leaves. -/
theorem toNat_clamp (o : Octets 32) :
    (clamp o).toNat = 2 ^ 254 + 8 * (o.toNat / 8 % 2 ^ 251) := by
  have hlen : o.bytes.length = 32 := o.length_bytes
  have hlt := o.toNat_lt
  -- The two bytes, as digits of the number, and what becomes of them.
  have hfirst := Bytes.toNat_div_mod o.bytes (i := 0) (by omega)
  have hlast := Bytes.toNat_div_mod o.bytes (i := 31) (by omega)
  have hlow := Bytes.toNat_modify o.bytes (i := 0) (by omega) (· &&& 248)
  have hlen' : 31 < (o.bytes.modify 0 (· &&& 248)).length := by
    rw [List.length_modify]
    omega
  have hhigh := Bytes.toNat_modify _ hlen' (fun b => b &&& 127 ||| 64)
  have hkept : (o.bytes.modify 0 (· &&& 248))[31] = o.bytes[31] :=
    List.getElem_modify_ne _ _ (by decide) _
  simp only [toNat_clear_low] at hlow
  simp only [hkept, toNat_set_high] at hhigh
  unfold Octets.toNat at *
  change Bytes.toNat ((o.bytes.modify 0 (· &&& 248)).modify 31 fun b => b &&& 127 ||| 64) = _
  omega

theorem eight_dvd_toNat_clamp (o : Octets 32) : 8 ∣ (clamp o).toNat := by
  rw [toNat_clamp]
  omega

theorem le_toNat_clamp (o : Octets 32) : 2 ^ 254 ≤ (clamp o).toNat := by
  rw [toNat_clamp]
  omega

theorem toNat_clamp_lt (o : Octets 32) : (clamp o).toNat < 2 ^ 255 := by
  rw [toNat_clamp]
  omega

/-- A number that is clamped already stays as it is. -/
theorem clamp_clamp (o : Octets 32) : clamp (clamp o) = clamp o := by
  apply Octets.toNat_inj
  rw [toNat_clamp (clamp o), toNat_clamp o]
  omega

end EdwardsSignature
