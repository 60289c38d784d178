import Mathlib
import SchemaDiagram.Bytes.Base64

/-!
# Base64 reads back what it wrote

The symbols of bytes are read back as those bytes, in a variant whose symbols can be told apart
(`Base64.decode_encode`). A group of four symbols is read as its three bytes wherever it stands, and
the last group, of two to four symbols, has the padding that its variant asks for and no bits to
spare (`Base64.decodeLast_symbols`).

Two variants may refuse each other's encodings, but what both of them read they read alike
(`Base64.eq_of_decode`) as long as no symbol has one value here and another one there.
-/

namespace SchemaDiagram.Base64

/-- The bytes of symbols. -/
def bytes (symbols : List Char) : List UInt8 :=
  symbols.map fun c => UInt8.ofNat c.toNat

/-- The byte of the symbol of six bits. -/
def Variant.symbolByte (v : Variant) (n : Nat) : UInt8 :=
  UInt8.ofNat (v.symbol n).toNat

/-- A variant whose symbols can be told from each other and from padding. -/
structure Variant.Readable (v : Variant) : Prop where
  /-- The byte of a symbol has the value of the symbol. -/
  value : ∀ n < 64, v.value? (v.symbolByte n) = some n
  /-- No symbol fills up a group. -/
  ne_pad : ∀ n < 64, v.symbolByte n ≠ padByte

/-- The standard variant can be read. -/
theorem readable_standard : Variant.standard.Readable := by
  constructor
  · decide +kernel
  · decide +kernel

/-- The url-safe variant can be read. -/
theorem readable_urlSafe : Variant.urlSafe.Readable := by
  constructor
  · decide +kernel
  · decide +kernel

variable {v : Variant}

/-- Only the last six bits of a number count for its symbol. -/
theorem symbolByte_mod (v : Variant) (n : Nat) : v.symbolByte (n % 64) = v.symbolByte n := by
  unfold Variant.symbolByte Variant.symbol
  rw [Nat.mod_mod]

namespace Variant.Readable

/-- The value of a symbol are its six bits. -/
theorem value?_symbolByte (hv : v.Readable) (n : Nat) :
    v.value? (v.symbolByte n) = some (n % 64) := by
  rw [← symbolByte_mod]
  exact hv.value _ (Nat.mod_lt n (by decide))

/-- No symbol is padding. -/
theorem symbolByte_ne (hv : v.Readable) (n : Nat) : v.symbolByte n ≠ padByte := by
  rw [← symbolByte_mod]
  exact hv.ne_pad _ (Nat.mod_lt n (by decide))

/-- The values of symbols are read. -/
theorem values_symbols (hv : v.Readable) (offset : Nat) (ns : List Nat) :
    values v offset (ns.map v.symbolByte) = .ok (ns.map (· % 64)) := by
  induction ns generalizing offset with
  | nil => rfl
  | cons n ns ih =>
    rw [List.map_cons, values, hv.value?_symbolByte]
    simp only [ih]
    rfl

end Variant.Readable

/-- An encoding consists of symbols and of equals signs. -/
theorem forall_mem_encode {P : Char → Prop} (hsymbol : ∀ n < 64, P (v.symbol n)) (hpad : P '=')
    (l : List UInt8) : ∀ c ∈ encode v l, P c := by
  have hany (n : Nat) : P (v.symbol n) := by
    have hmod : v.symbol (n % 64) = v.symbol n := by
      unfold Variant.symbol
      rw [Nat.mod_mod]
    exact hmod ▸ hsymbol _ (Nat.mod_lt n (by decide))
  have hpadding (count : Nat) : ∀ c ∈ v.padding count, P c := by
    unfold Variant.padding
    split
    · exact fun c hc => List.eq_of_mem_replicate hc ▸ hpad
    · exact fun c hc => nomatch hc
  fun_induction encode v l with
  | case1 => exact fun c hc => nomatch hc
  | case2 a n => simpa [or_imp, forall_and, hany] using hpadding 2
  | case3 a b n => simpa [or_imp, forall_and, hany] using hpadding 3
  | case4 a b c rest n ih => simpa [hany] using ih

/-! ## Groups -/

/-- Padding consists of equals signs, as many as the variant asks for. -/
theorem bytes_padding (v : Variant) (count : Nat) : bytes (v.padding count) =
    List.replicate (if v.isPadded then 4 - count else 0) padByte := by
  unfold Variant.padding
  split
  · exact List.map_replicate
  · rfl

/-- The last group is read if it has no bits to spare. -/
theorem decodeLast_symbols (hv : v.Readable) (ns : List Nat) (hleast : 2 ≤ ns.length)
    (hmost : ns.length ≤ 4) (hspare : spareBits (ns.map (· % 64)) = 0) (offset : Nat) :
    decodeLast v offset (ns.map v.symbolByte ++ bytes (v.padding ns.length)) =
      .ok (bytesOf (ns.map (· % 64))) := by
  have hsymbols : ∀ b ∈ ns.map v.symbolByte, (b != padByte) = true := by
    intro b hb
    obtain ⟨n, -, rfl⟩ := List.mem_map.1 hb
    exact bne_iff_ne.2 (hv.symbolByte_ne n)
  have hpads (k : Nat) : (List.replicate k padByte).any (· != padByte) = false := by
    simp
  -- The padding begins behind the symbols, and it is as the variant asks for.
  have htake (k : Nat) : (ns.map v.symbolByte ++ List.replicate k padByte).takeWhile
      (· != padByte) = ns.map v.symbolByte := by
    rw [List.takeWhile_append_of_pos hsymbols, List.takeWhile_eq_nil_iff.2, List.append_nil]
    simp
  have hdrop (k : Nat) : (ns.map v.symbolByte ++ List.replicate k padByte).dropWhile
      (· != padByte) = List.replicate k padByte := by
    rw [List.dropWhile_append_of_pos hsymbols, List.dropWhile_eq_self_iff.2]
    simp
  have hcount : ¬ns.length < 2 := Nat.not_lt.2 hleast
  have hfull : ¬if v.isPadded = true then
      (ns.length + if v.isPadded = true then 4 - ns.length else 0) ≠ 4
      else List.replicate (if v.isPadded = true then 4 - ns.length else 0) padByte ≠ [] := by
    cases v.isPadded with
    | true => simpa using Nat.add_sub_of_le hmost
    | false => simp
  unfold decodeLast
  rw [bytes_padding]
  simp only [htake, hdrop, hv.values_symbols, List.length_map, hpads, List.length_replicate, bind,
    Except.bind]
  rw [if_neg (by simp [hcount]), if_neg hcount, if_neg hfull, if_neg (not_not.2 hspare)]

/-- No more than four bytes are a last group. -/
theorem decodeGroups_of_length_le {s : List UInt8} (hne : s ≠ []) (h : s.length ≤ 4)
    (offset : Nat) : decodeGroups v offset s = decodeLast v offset s := by
  match s with
  | [] => exact absurd rfl hne
  | [_] | [_, _] | [_, _, _] | [_, _, _, _] => rfl
  | _ :: _ :: _ :: _ :: _ :: _ =>
    simp only [List.length_cons] at h
    omega

/-- A last group of two to four symbols is read if it has no bits to spare. -/
theorem decodeGroups_last (hv : v.Readable) (ns : List Nat) (hleast : 2 ≤ ns.length)
    (hmost : ns.length ≤ 4) (hspare : spareBits (ns.map (· % 64)) = 0) (offset : Nat) :
    decodeGroups v offset (ns.map v.symbolByte ++ bytes (v.padding ns.length)) =
      .ok (bytesOf (ns.map (· % 64))) := by
  rw [← decodeLast_symbols hv ns hleast hmost hspare offset]
  refine decodeGroups_of_length_le ?_ ?_ offset
  · refine List.append_ne_nil_of_left_ne_nil (fun hnil => ?_) _
    rw [List.map_eq_nil_iff.1 hnil] at hleast
    exact absurd hleast (by decide)
  · rw [List.length_append, List.length_map, bytes_padding, List.length_replicate]
    split <;> omega

/-- A group of four symbols is read as three bytes, and then the groups behind it. -/
theorem decodeGroups_symbols (hv : v.Readable) (a b c d : Nat) {offset : Nat} {rest r : List UInt8}
    (hrest : decodeGroups v (offset + 4) rest = .ok r) :
    decodeGroups v offset ([a, b, c, d].map v.symbolByte ++ rest) =
      .ok (bytesOf ([a, b, c, d].map (· % 64)) ++ r) := by
  cases rest with
  | nil =>
    -- A group at the end is a last one that needs no padding.
    have hpadding : bytes (v.padding [a, b, c, d].length) = [] := by
      rw [bytes_padding]
      simp
    have hlast := decodeGroups_last hv [a, b, c, d] (by simp) (by simp) rfl offset
    rw [hpadding] at hlast
    rw [hlast, ← Except.ok.inj hrest]
    rfl
  | cons e rest =>
    show (do
      let ns ← values v offset ([a, b, c, d].map v.symbolByte)
      return bytesOf ns ++ (← decodeGroups v (offset + 4) (e :: rest))) = _
    rw [hv.values_symbols, hrest]
    rfl

/-! ## Whole texts -/

/-- The length of an encoding is not one more than a multiple of four. -/
theorem length_encode_mod (v : Variant) (l : List UInt8) : (encode v l).length % 4 ≠ 1 := by
  have hpadding (count : Nat) : (v.padding count).length = if v.isPadded then 4 - count else 0 := by
    unfold Variant.padding
    split
    · exact List.length_replicate
    · rfl
  fun_induction encode v l with
  | case1 => simp
  | case2 a n =>
    simp only [List.length_append, List.length_cons, List.length_nil, hpadding]
    split <;> omega
  | case3 a b n =>
    simp only [List.length_append, List.length_cons, List.length_nil, hpadding]
    split <;> omega
  | case4 a b c rest n ih =>
    simp only [List.length_cons]
    omega

/-- The symbols of bytes are read back. -/
theorem decode_encode (hv : v.Readable) (l : List UInt8) :
    decode v (bytes (encode v l)) = .ok l := by
  have hbyte {n : Nat} {a : UInt8} (h : n = a.toNat) : UInt8.ofNat n = a := by
    rw [h, UInt8.ofNat_toNat]
  have hgroups (offset : Nat) : decodeGroups v offset (bytes (encode v l)) = .ok l := by
    fun_induction encode v l generalizing offset with
    | case1 => rfl
    | case2 a n =>
      have ha := a.toNat_lt
      have hspare : n % 64 % 16 = 0 := by omega
      have hvalue : n / 64 % 64 * 4 + n % 64 / 16 = a.toNat := by omega
      have hlast := decodeGroups_last hv [n / 64, n] (by simp) (by simp) hspare offset
      rw [← hbyte hvalue]
      exact hlast
    | case3 a b n =>
      have ha := a.toNat_lt
      have hb := b.toNat_lt
      have hspare : n % 64 % 4 = 0 := by omega
      have hvalue : n / 4096 % 64 * 4 + n / 64 % 64 / 16 = a.toNat := by omega
      have hvalue' : n / 64 % 64 % 16 * 16 + n % 64 / 4 = b.toNat := by omega
      have hlast := decodeGroups_last hv [n / 4096, n / 64, n] (by simp) (by simp) hspare offset
      rw [← hbyte hvalue, ← hbyte hvalue']
      exact hlast
    | case4 a b c rest n ih =>
      have ha := a.toNat_lt
      have hb := b.toNat_lt
      have hc := c.toNat_lt
      have hvalue : n / 262144 % 64 * 4 + n / 4096 % 64 / 16 = a.toNat := by omega
      have hvalue' : n / 4096 % 64 % 16 * 16 + n / 64 % 64 / 4 = b.toNat := by omega
      have hvalue'' : n / 64 % 64 % 4 * 64 + n % 64 = c.toNat := by omega
      have hgroup := decodeGroups_symbols hv (n / 262144) (n / 4096) (n / 64) n (ih (offset + 4))
      rw [← hbyte hvalue, ← hbyte hvalue', ← hbyte hvalue'']
      exact hgroup
  have hstray : lastIsStray v (bytes (encode v l)) = false := by
    have hlength : (bytes (encode v l)).length = (encode v l).length := List.length_map _
    unfold lastIsStray
    rw [hlength, beq_eq_false_iff_ne.2 (length_encode_mod v l), Bool.false_and]
  unfold decode
  rw [hstray]
  exact hgroups 0

/-! ## Two variants -/

/-- A byte that is a symbol of both variants has the same value in both. -/
def Variant.Agree (v w : Variant) : Prop :=
  ∀ b m n, v.value? b = some m → w.value? b = some n → m = n

/-- What is found in two lists that begin alike is found at the same place in both if nothing that is
looked for is in the remainders of both. -/
theorem eq_of_findIdx?_append {α : Type} {p : α → Bool} {l s t : List α} {m n : Nat}
    (hother : ∀ x ∈ s, p x = true → ∀ y ∈ t, p y = false) (hm : (l ++ s).findIdx? p = some m)
    (hn : (l ++ t).findIdx? p = some n) : m = n := by
  rw [List.findIdx?_append, Option.or_eq_some_iff] at hm hn
  rcases hm with hm | ⟨hnone, hm⟩
  · rcases hn with hn | ⟨hnone, -⟩
    · exact Option.some.inj (hm.symm.trans hn)
    · exact nomatch hnone.symm.trans hm
  · rcases hn with hn | ⟨-, hn⟩
    · exact nomatch hnone.symm.trans hn
    · obtain ⟨i, hi, -⟩ := Option.map_eq_some_iff.1 hm
      obtain ⟨hlt, hfound, -⟩ := List.findIdx?_eq_some_iff_getElem.1 hi
      rw [List.findIdx?_eq_none_iff.2 (hother _ (List.getElem_mem hlt) hfound)] at hn
      cases hn

/-- The two variants share the letters and digits, but none of the other symbols. -/
theorem agree_standard_urlSafe : Variant.standard.Agree Variant.urlSafe := by
  have hlast : ∀ c ∈ Variant.standard.lastSymbols, ∀ d ∈ Variant.urlSafe.lastSymbols,
      d.toNat ≠ c.toNat := by
    simp [Variant.standard, Variant.urlSafe]
  intro b m n hm hn
  unfold Variant.value? Variant.symbols at hm hn
  refine eq_of_findIdx?_append ?_ hm hn
  intro c hc hfound d hd
  rw [← eq_of_beq hfound]
  exact beq_false_of_ne (hlast c hc d hd)

variable {w : Variant} {s a b : List UInt8}

/-- What is made of a result was there. -/
theorem exists_of_map_ok {α β : Type} {f : α → β} {x : Except Fault α} {b : β}
    (h : x.map f = .ok b) : ∃ a, x = .ok a ∧ f a = b := by
  cases x with
  | error fault => cases h
  | ok a => exact ⟨a, rfl, Except.ok.inj h⟩

/-- The values of bytes that are symbols of both variants are the same. -/
theorem eq_of_values (h : v.Agree w) {i j : Nat} {ms ns : List Nat} (hv : values v i s = .ok ms)
    (hw : values w j s = .ok ns) : ms = ns := by
  induction s generalizing i j ms ns with
  | nil =>
    cases hv
    cases hw
    rfl
  | cons x s ih =>
    unfold values at hv hw
    split at hv
    · next m hm =>
      split at hw
      · next n hn =>
        obtain ⟨ms, hms, rfl⟩ := exists_of_map_ok hv
        obtain ⟨ns, hns, rfl⟩ := exists_of_map_ok hw
        rw [h x m n hm hn, ih hms hns]
      · cases hw
    · cases hv

/-- A last group that is read has the bytes of the values in front of its padding. -/
theorem exists_of_decodeLast {offset : Nat} (h : decodeLast v offset s = .ok a) :
    ∃ ns, values v offset (s.takeWhile (· != padByte)) = .ok ns ∧ a = bytesOf ns := by
  unfold decodeLast at h
  simp only [bind, Except.bind] at h
  split at h
  · cases h
  · next ns hns =>
    split_ifs at h <;> cases h <;> exact ⟨ns, hns, rfl⟩

/-- A group with others behind it that is read has the bytes of its values in front of theirs. -/
theorem exists_of_decodeGroups {offset : Nat} {x y z t e : UInt8}
    (h : decodeGroups v offset (x :: y :: z :: t :: e :: s) = .ok a) :
    ∃ ns r, values v offset [x, y, z, t] = .ok ns ∧
      decodeGroups v (offset + 4) (e :: s) = .ok r ∧ a = bytesOf ns ++ r := by
  unfold decodeGroups at h
  simp only [bind, Except.bind] at h
  split at h
  · cases h
  · next ns hns =>
    split at h
    · cases h
    · next r hr =>
      cases h
      exact ⟨ns, r, hns, hr, rfl⟩

/-- Groups that both variants read have the same bytes. -/
theorem eq_of_decodeGroups (h : v.Agree w) {i j : Nat} (hv : decodeGroups v i s = .ok a)
    (hw : decodeGroups w j s = .ok b) : a = b := by
  fun_induction decodeGroups v i s generalizing j a b with
  | case1 =>
    cases hv
    cases hw
    rfl
  | case2 offset x y z t e rest ih =>
    obtain ⟨ms, p, hms, hp, rfl⟩ := exists_of_decodeGroups hv
    obtain ⟨ns, q, hns, hq, rfl⟩ := exists_of_decodeGroups hw
    rw [eq_of_values h hms hns, ih hp hq]
  | case3 offset group hne hlong =>
    have hlast : decodeGroups w j group = decodeLast w j group := by
      rw [decodeGroups]
      · exact hne
      · exact hlong
    rw [hlast] at hw
    obtain ⟨ms, hms, rfl⟩ := exists_of_decodeLast hv
    obtain ⟨ns, hns, rfl⟩ := exists_of_decodeLast hw
    rw [eq_of_values h hms hns]

/-- What two variants read that agree on their symbols they read alike. -/
theorem eq_of_decode (h : v.Agree w) (hv : decode v s = .ok a) (hw : decode w s = .ok b) :
    a = b := by
  unfold decode at hv hw
  split at hv
  · cases hv
  · split at hw
    · cases hw
    · exact eq_of_decodeGroups h hv hw

end SchemaDiagram.Base64
