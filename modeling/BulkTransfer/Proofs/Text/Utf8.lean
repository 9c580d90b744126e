import BulkTransfer.Text.Utf8
import Mathlib.Data.Nat.Bitwise
/-!
# UTF-8 reads back

Text written as bytes is read back as it was, and no other bytes are read as that text. The machine
reads one character at a time, so each law is about one character in front of any bytes first, and then
about the text. Texts are ordered as their bytes are: of two different characters the lesser one is
written with the lesser bytes, and neither begins like the other.
-/
namespace BulkTransfer.Utf8

theorem toNat_low_bits (b : UInt8) (k : Nat) (mask : UInt8) (hm : mask.toNat = 2 ^ k - 1) :
    (b &&& mask).toNat = b.toNat % 2 ^ k := by
  rw [UInt8.toNat_and, hm, Nat.and_two_pow_sub_one_eq_mod]

theorem payload_eq (b : UInt8) : payload b = b.toNat % 64 := toNat_low_bits b 6 0x3F rfl

theorem isContinuation_iff (b : UInt8) :
    isContinuation b = true ↔ 128 ≤ b.toNat ∧ b.toNat ≤ 191 := by
  simp [isContinuation, UInt8.le_iff_toNat_le]

/-- A code point is below the surrogates or behind them, and within the planes. -/
theorem code_point_range (c : Char) :
    c.toNat < 0xD800 ∨ (0xDFFF < c.toNat ∧ c.toNat < 0x110000) := c.valid

theorem ofNat_toNat_of_eq {c : Char} {n : Nat} (h : n = c.toNat) : Char.ofNat n = c := by
  rw [h, Char.ofNat_toNat]

theorem ne_of_toNat {a b : UInt8} (h : a.toNat ≠ b.toNat) : a ≠ b := fun e => h (e ▸ rfl)

theorem head_one {lead : UInt8} {rest : Bytes} (h : lead.toNat < 128) :
    head lead rest = .char (Char.ofNat lead.toNat) 1 := by
  have : lead < 0x80 := UInt8.lt_iff_toNat_lt.mpr h
  simp [head, this]

theorem head_two {lead second : UInt8} {rest : Bytes} (hl : 194 ≤ lead.toNat)
    (hu : lead.toNat < 224) (hs : 128 ≤ second.toNat ∧ second.toNat ≤ 191) :
    head lead (second :: rest) =
      .char (Char.ofNat (lead.toNat % 32 * 64 + second.toNat % 64)) 2 := by
  have hb : (lead &&& 0x1F).toNat = lead.toNat % 32 := toNat_low_bits lead 5 0x1F rfl
  have e0 : lead ≠ 0xE0 := ne_of_toNat (by simp; omega)
  have ed : lead ≠ 0xED := ne_of_toNat (by simp; omega)
  have f0 : lead ≠ 0xF0 := ne_of_toNat (by simp; omega)
  have f4 : lead ≠ 0xF4 := ne_of_toNat (by simp; omega)
  simp only [head, secondRange, e0, ed, f0, f4, if_false, payload_eq, hb]
  simp only [UInt8.lt_iff_toNat_lt, gt_iff_lt, Bool.or_eq_true, decide_eq_true_eq]
  rw [if_neg (by simp; omega), if_neg (by simp; omega), if_neg (by simp; omega),
    if_pos (by simp; omega)]

theorem head_three {lead second third : UInt8} {rest : Bytes} (hl : 224 ≤ lead.toNat)
    (hu : lead.toNat < 240) (hs : 128 ≤ second.toNat ∧ second.toNat ≤ 191)
    (low : lead.toNat = 224 → 160 ≤ second.toNat) (high : lead.toNat = 237 → second.toNat ≤ 159)
    (ht : 128 ≤ third.toNat ∧ third.toNat ≤ 191) :
    head lead (second :: third :: rest) = .char (Char.ofNat
      (lead.toNat % 16 * 4096 + second.toNat % 64 * 64 + third.toNat % 64)) 3 := by
  have hb : (lead &&& 0x0F).toNat = lead.toNat % 16 := toNat_low_bits lead 4 0x0F rfl
  have f0 : lead ≠ 0xF0 := ne_of_toNat (by simp; omega)
  have f4 : lead ≠ 0xF4 := ne_of_toNat (by simp; omega)
  have range : (secondRange lead).1.toNat ≤ second.toNat ∧
      second.toNat ≤ (secondRange lead).2.toNat := by
    unfold secondRange
    split_ifs with e0 ed
    · have := low (by rw [e0]; rfl)
      simp; omega
    · have := high (by rw [ed]; rfl)
      simp; omega
    · simp; omega
  have cont : isContinuation third = true := (isContinuation_iff third).mpr ht
  simp only [head, payload_eq, hb, cont]
  simp only [UInt8.lt_iff_toNat_lt, gt_iff_lt, Bool.or_eq_true, decide_eq_true_eq]
  rw [if_neg (by simp; omega), if_neg (by simp; omega), if_neg (by simp; omega),
    if_neg (by simp; omega), if_neg (by simp), if_pos (by simp; omega)]

theorem head_four {lead second third fourth : UInt8} {rest : Bytes} (hl : 240 ≤ lead.toNat)
    (hu : lead.toNat ≤ 244) (hs : 128 ≤ second.toNat ∧ second.toNat ≤ 191)
    (low : lead.toNat = 240 → 144 ≤ second.toNat) (high : lead.toNat = 244 → second.toNat ≤ 143)
    (ht : 128 ≤ third.toNat ∧ third.toNat ≤ 191) (hf : 128 ≤ fourth.toNat ∧ fourth.toNat ≤ 191) :
    head lead (second :: third :: fourth :: rest) = .char (Char.ofNat
      (lead.toNat % 8 * 262144 + second.toNat % 64 * 4096 + third.toNat % 64 * 64 +
        fourth.toNat % 64)) 4 := by
  have hb : (lead &&& 0x07).toNat = lead.toNat % 8 := toNat_low_bits lead 3 0x07 rfl
  have range : (secondRange lead).1.toNat ≤ second.toNat ∧
      second.toNat ≤ (secondRange lead).2.toNat := by
    unfold secondRange
    split_ifs with e0 ed f0 f4
    · rw [e0] at hl; simp at hl
    · rw [ed] at hl; simp at hl
    · have := low (by rw [f0]; rfl)
      simp; omega
    · have := high (by rw [f4]; rfl)
      simp; omega
    · simp; omega
  have cont3 : isContinuation third = true := (isContinuation_iff third).mpr ht
  have cont4 : isContinuation fourth = true := (isContinuation_iff fourth).mpr hf
  simp only [head, payload_eq, hb, cont3, cont4]
  simp only [UInt8.lt_iff_toNat_lt, gt_iff_lt, Bool.or_eq_true, decide_eq_true_eq]
  rw [if_neg (by simp; omega), if_neg (by simp; omega), if_neg (by simp; omega),
    if_neg (by simp; omega), if_neg (by simp), if_neg (by simp; omega), if_neg (by simp)]

/-- A written character in front of any bytes is read whole. -/
theorem head_encoded (c : Char) (rest : Bytes) :
    ∃ lead tail, String.utf8EncodeChar c = lead :: tail ∧
      head lead (tail ++ rest) = .char c (tail.length + 1) := by
  have valid := code_point_range c
  have back : ∀ n, n = c.toNat → Char.ofNat n = c := fun n h => ofNat_toNat_of_eq h
  have value : c.val.toNat = c.toNat := rfl
  simp only [String.utf8EncodeChar, value]
  split_ifs with h1 h2 h3
  · refine ⟨_, [], rfl, ?_⟩
    rw [List.nil_append, head_one (by rw [UInt8.toNat_ofNat']; omega), UInt8.toNat_ofNat',
      back _ (by omega)]
    rfl
  · refine ⟨_, [_], rfl, ?_⟩
    rw [List.cons_append, List.nil_append, head_two]
    all_goals simp only [UInt8.toNat_ofNat']
    · rw [back _ (by omega)]; rfl
    all_goals omega
  · refine ⟨_, [_, _], rfl, ?_⟩
    rw [List.cons_append, List.cons_append, List.nil_append, head_three]
    all_goals simp only [UInt8.toNat_ofNat']
    · rw [back _ (by omega)]; rfl
    all_goals omega
  · refine ⟨_, [_, _, _], rfl, ?_⟩
    rw [List.cons_append, List.cons_append, List.cons_append, List.nil_append, head_four]
    all_goals simp only [UInt8.toNat_ofNat']
    · rw [back _ (by omega)]; rfl
    all_goals omega

theorem decodeFrom_skip (bytes rest : Bytes) (place : Nat) (acc : List Char) :
    decodeFrom (bytes ++ rest) place bytes.length acc =
      decodeFrom rest (place + bytes.length) 0 acc := by
  induction bytes generalizing place with
  | nil => rfl
  | cons b bytes ih =>
    rw [List.cons_append, List.length_cons, decodeFrom, ih]
    congr 1
    omega

theorem decodeFrom_encoded (cs : List Char) (place : Nat) (acc : List Char) :
    decodeFrom (cs.flatMap String.utf8EncodeChar) place 0 acc = .ok (acc.reverse ++ cs) := by
  induction cs generalizing place acc with
  | nil => simp [decodeFrom]
  | cons c cs ih =>
    obtain ⟨lead, tail, written, read⟩ := head_encoded c (cs.flatMap String.utf8EncodeChar)
    rw [List.flatMap_cons, written, List.cons_append, decodeFrom]
    simp only [read, Nat.add_sub_cancel]
    rw [decodeFrom_skip, ih]
    simp

theorem encode_eq (text : String) : encode text = text.toList.flatMap String.utf8EncodeChar := by
  rw [encode, String.toUTF8, ← String.utf8Encode_toList, List.utf8Encode,
    List.toList_data_toByteArray]

theorem decode_encode (text : String) : decode (encode text) = .ok text := by
  rw [decode, encode_eq, decodeFrom_encoded, Except.map, List.reverse_nil, List.nil_append,
    String.ofList_toList]

theorem encode_injective {a b : String} (same : encode a = encode b) : a = b := by
  have decoded := decode_encode a
  rw [same, decode_encode] at decoded
  exact (Except.ok.inj decoded).symm

theorem value_ofNat {n : Nat} (h : n.isValidChar) : (Char.ofNat n).val.toNat = n := by
  rw [Char.ofNat, dif_pos h]
  rfl

/-- What the second byte of a character may be. -/
theorem second_within {lead second : UInt8}
    (h : ¬ (lead > 0xF4 || second < (secondRange lead).1 || second > (secondRange lead).2) = true) :
    lead.toNat ≤ 244 ∧ 128 ≤ second.toNat ∧ second.toNat ≤ 191 ∧
      (lead.toNat = 224 → 160 ≤ second.toNat) ∧ (lead.toNat = 237 → second.toNat ≤ 159) ∧
      (lead.toNat = 240 → 144 ≤ second.toNat) ∧ (lead.toNat = 244 → second.toNat ≤ 143) := by
  have named : ∀ b : UInt8, lead.toNat = b.toNat → lead = b := fun b => UInt8.toNat_inj.mp
  simp only [Bool.or_eq_true, decide_eq_true_eq, gt_iff_lt, UInt8.lt_iff_toNat_lt, not_or, Nat.not_lt] at h
  obtain ⟨⟨top, low⟩, high⟩ := h
  have top : lead.toNat ≤ 244 := top
  unfold secondRange at low high
  split_ifs at low high with e0 ed f0 f4
  · subst e0
    simp at low high ⊢
    omega
  · subst ed
    simp at low high ⊢
    omega
  · subst f0
    simp at low high ⊢
    omega
  · subst f4
    simp at low high ⊢
    omega
  · refine ⟨top, low, high, ?_, ?_, ?_, ?_⟩
    · exact fun same => absurd (named 0xE0 same) e0
    · exact fun same => absurd (named 0xED same) ed
    · exact fun same => absurd (named 0xF0 same) f0
    · exact fun same => absurd (named 0xF4 same) f4

theorem ofNat_eq_byte {n : Nat} (b : UInt8) (h : n = b.toNat) : UInt8.ofNat n = b := by
  rw [h, UInt8.ofNat_toNat]

theorem written_one {lead : UInt8} (h : lead.toNat < 128) :
    String.utf8EncodeChar (Char.ofNat lead.toNat) = [lead] := by
  rw [String.utf8EncodeChar, value_ofNat (.inl (by omega)), if_pos (by omega), ofNat_eq_byte lead rfl]

theorem written_two {lead second : UInt8} (hl : 194 ≤ lead.toNat) (hu : lead.toNat < 224)
    (hs : 128 ≤ second.toNat ∧ second.toNat ≤ 191) :
    String.utf8EncodeChar (Char.ofNat (lead.toNat % 32 * 64 + second.toNat % 64)) = [lead, second] := by
  rw [String.utf8EncodeChar, value_ofNat (.inl (by omega)), if_neg (by omega), if_pos (by omega),
    ofNat_eq_byte lead (by omega), ofNat_eq_byte second (by omega)]

theorem written_three {lead second third : UInt8} (hl : 224 ≤ lead.toNat) (hu : lead.toNat < 240)
    (hs : 128 ≤ second.toNat ∧ second.toNat ≤ 191) (low : lead.toNat = 224 → 160 ≤ second.toNat)
    (high : lead.toNat = 237 → second.toNat ≤ 159) (ht : 128 ≤ third.toNat ∧ third.toNat ≤ 191) :
    String.utf8EncodeChar (Char.ofNat
      (lead.toNat % 16 * 4096 + second.toNat % 64 * 64 + third.toNat % 64)) = [lead, second, third] := by
  have valid : (lead.toNat % 16 * 4096 + second.toNat % 64 * 64 + third.toNat % 64).isValidChar := by
    unfold Nat.isValidChar
    omega
  rw [String.utf8EncodeChar, value_ofNat valid, if_neg (by omega), if_neg (by omega), if_pos (by omega),
    ofNat_eq_byte lead (by omega), ofNat_eq_byte second (by omega), ofNat_eq_byte third (by omega)]

theorem written_four {lead second third fourth : UInt8} (hl : 240 ≤ lead.toNat) (hu : lead.toNat ≤ 244)
    (hs : 128 ≤ second.toNat ∧ second.toNat ≤ 191) (low : lead.toNat = 240 → 144 ≤ second.toNat)
    (high : lead.toNat = 244 → second.toNat ≤ 143) (ht : 128 ≤ third.toNat ∧ third.toNat ≤ 191)
    (hf : 128 ≤ fourth.toNat ∧ fourth.toNat ≤ 191) :
    String.utf8EncodeChar (Char.ofNat (lead.toNat % 8 * 262144 + second.toNat % 64 * 4096 +
      third.toNat % 64 * 64 + fourth.toNat % 64)) = [lead, second, third, fourth] := by
  have valid : (lead.toNat % 8 * 262144 + second.toNat % 64 * 4096 + third.toNat % 64 * 64 +
      fourth.toNat % 64).isValidChar := by
    unfold Nat.isValidChar
    omega
  rw [String.utf8EncodeChar, value_ofNat valid, if_neg (by omega), if_neg (by omega), if_neg (by omega),
    ofNat_eq_byte lead (by omega), ofNat_eq_byte second (by omega), ofNat_eq_byte third (by omega),
    ofNat_eq_byte fourth (by omega)]

/-- A character that is read is written by the bytes it was read from. -/
theorem head_char {lead : UInt8} {rest : Bytes} {c : Char} {size : Nat}
    (h : head lead rest = .char c size) :
    ∃ tail more, rest = tail ++ more ∧ size = tail.length + 1 ∧ String.utf8EncodeChar c = lead :: tail := by
  unfold head at h
  dsimp only at h
  by_cases one : lead < 0x80
  · rw [if_pos one] at h
    cases h
    exact ⟨[], rest, rfl, rfl, written_one (UInt8.lt_iff_toNat_lt.mp one)⟩
  rw [if_neg one] at h
  by_cases low : lead < 0xC2
  · rw [if_pos low] at h
    cases h
  rw [if_neg low] at h
  have least : 194 ≤ lead.toNat := Nat.not_lt.mp fun less => low (UInt8.lt_iff_toNat_lt.mpr less)
  rcases rest with _ | ⟨second, rest⟩
  · cases h
  dsimp only at h
  by_cases range : (lead > 0xF4 || second < (secondRange lead).1 || second > (secondRange lead).2) = true
  · rw [if_pos range] at h
    cases h
  rw [if_neg range] at h
  obtain ⟨top, lower, upper, e0, ed, f0, f4⟩ := second_within range
  by_cases two : lead < 0xE0
  · rw [if_pos two] at h
    cases h
    refine ⟨[second], rest, rfl, rfl, ?_⟩
    rw [toNat_low_bits lead 5 0x1F rfl, payload_eq]
    exact written_two least (UInt8.lt_iff_toNat_lt.mp two) ⟨lower, upper⟩
  rw [if_neg two] at h
  have two : 224 ≤ lead.toNat := Nat.not_lt.mp fun less => two (UInt8.lt_iff_toNat_lt.mpr less)
  rcases rest with _ | ⟨third, rest⟩
  · cases h
  dsimp only at h
  cases cont3 : isContinuation third with
  | false =>
    rw [cont3] at h
    cases h
  | true =>
    rw [cont3] at h
    have third_range := (isContinuation_iff third).mp cont3
    by_cases three : lead < 0xF0
    · simp only [three, if_true] at h
      cases h
      refine ⟨[second, third], rest, rfl, rfl, ?_⟩
      rw [toNat_low_bits lead 4 0x0F rfl, payload_eq, payload_eq]
      exact written_three two (UInt8.lt_iff_toNat_lt.mp three) ⟨lower, upper⟩ e0 ed third_range
    have four : 240 ≤ lead.toNat := Nat.not_lt.mp fun less => three (UInt8.lt_iff_toNat_lt.mpr less)
    rcases rest with _ | ⟨fourth, rest⟩
    · simp [three] at h
    cases cont4 : isContinuation fourth with
    | false => simp [three, cont4] at h
    | true =>
      simp only [three, cont4, if_false, Bool.not_true, Bool.false_eq_true] at h
      cases h
      refine ⟨[second, third, fourth], rest, rfl, rfl, ?_⟩
      rw [toNat_low_bits lead 3 0x07 rfl, payload_eq, payload_eq, payload_eq]
      exact written_four four top ⟨lower, upper⟩ f0 f4 third_range ((isContinuation_iff fourth).mp cont4)

theorem decodeFrom_sound {bytes : Bytes} {place : Nat} {acc chars : List Char}
    (h : decodeFrom bytes place 0 acc = .ok chars) :
    ∃ read, chars = acc.reverse ++ read ∧ read.flatMap String.utf8EncodeChar = bytes := by
  match bytes with
  | [] =>
    cases h
    exact ⟨[], (List.append_nil _).symm, rfl⟩
  | lead :: rest =>
    rw [decodeFrom] at h
    cases first : head lead rest with
    | bad extent =>
      rw [first] at h
      cases h
    | char c size =>
      obtain ⟨tail, more, parts, rfl, written⟩ := head_char first
      have less : more.length < (lead :: rest).length := by
        rw [parts, List.length_cons, List.length_append]
        omega
      simp only [first, Nat.add_sub_cancel] at h
      rw [parts, decodeFrom_skip] at h
      obtain ⟨read, rfl, same⟩ := decodeFrom_sound h
      refine ⟨c :: read, by simp, ?_⟩
      rw [List.flatMap_cons, written, same, List.cons_append, parts]
termination_by bytes.length

/-- Bytes that are read are those that write what was read. -/
theorem encode_decode {bytes : Bytes} {text : String} (h : decode bytes = .ok text) :
    encode text = bytes := by
  rw [decode] at h
  cases read : decodeFrom bytes 0 0 [] with
  | error fault =>
    rw [read] at h
    cases h
  | ok chars =>
    rw [read] at h
    cases h
    obtain ⟨same, rfl, written⟩ := decodeFrom_sound read
    rw [encode_eq, String.toList_ofList]
    exact written

section Order

/-- The first byte in which two characters differ is less in the lesser one, whatever follows. -/
theorem utf8EncodeChar_lt {c c' : Char} (h : c < c') (rest rest' : Bytes) :
    String.utf8EncodeChar c ++ rest < String.utf8EncodeChar c' ++ rest' := by
  have less : c.val.toNat < c'.val.toNat := UInt32.lt_iff_toNat_lt.mp (Char.lt_def.mp h)
  have bound : ∀ c : Char, c.val.toNat < 262144 * 8 := fun c => by
    have range := code_point_range c
    have value : c.val.toNat = c.toNat := rfl
    omega
  have first := bound c
  have second := bound c'
  simp only [String.utf8EncodeChar]
  -- by the numbers of bytes that both take
  split_ifs
  all_goals
    simp (disch := omega) only [List.cons_append, List.nil_append, List.cons_lt_cons_iff,
      UInt8.lt_iff_toNat_lt, ← UInt8.toNat_inj, UInt8.toNat_ofNat', Nat.mod_eq_of_lt]
    omega

/-- The order of texts is that of their bytes. -/
theorem encode_lt {a b : String} : encode a < encode b ↔ a < b := by
  have grows : ∀ cs cs' : List Char, cs < cs' →
      cs.flatMap String.utf8EncodeChar < cs'.flatMap String.utf8EncodeChar := by
    intro cs
    induction cs with
    | nil =>
      rintro (_ | ⟨c', cs'⟩) h
      · exact absurd h (List.lt_irrefl _)
      · obtain ⟨lead, tail, written, -⟩ := head_encoded c' []
        rw [List.flatMap_cons, written]
        exact List.nil_lt_cons _ _
    | cons c cs ih =>
      rintro (_ | ⟨c', cs'⟩) h
      · exact absurd h (List.not_lt_nil _)
      · rw [List.flatMap_cons, List.flatMap_cons]
        rcases List.cons_lt_cons_iff.mp h with less | ⟨rfl, later⟩
        · exact utf8EncodeChar_lt less _ _
        · exact List.append_left_lt (ih cs' later)
  have mono : ∀ {a b : String}, a < b → encode a < encode b := by
    intro a b h
    rw [encode_eq, encode_eq]
    exact grows _ _ (String.lt_iff.mp h)
  refine ⟨fun h => ?_, mono⟩
  by_cases more : b < a
  · exact absurd (List.lt_trans h (mono more)) (List.lt_irrefl _)
  · refine Decidable.byContradiction fun less => List.lt_irrefl (encode a) ?_
    rwa [← String.le_antisymm (String.not_lt.mp more) (String.not_lt.mp less)] at h

end Order

end BulkTransfer.Utf8
