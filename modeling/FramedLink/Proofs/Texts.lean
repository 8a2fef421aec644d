import Mathlib.Tactic.IntervalCases
import FramedLink.Text.Hex

/-!
# Texts and octets

A text that was encoded in UTF-8 is read back as it was (`Utf8.decode_encode`). Hex text is read
piece by piece: white space and commas between pieces make no difference (`Hex.pieces_append`), and
what all pieces spell together is what is read (`Hex.decode_of_spells`), so octets that were written
as hex text with any separator of white space and commas are read back (`Hex.decode_encode`).
-/

namespace FramedLink.Text

/-! ## UTF-8 -/

namespace Utf8

variable {a b c d : UInt8} {index : Nat} {read : List Char} {rest : Bytes}

/-- The octets of an array from a position on, behind those listed before. -/
theorem toList_loop (octets : ByteArray) (i : Nat) (listed : Bytes) :
    ByteArray.toList.loop octets i listed = listed.reverse ++ octets.data.toList.drop i := by
  induction i, listed using ByteArray.toList.loop.induct octets with
  | case1 i listed hlt ih =>
    have hget : octets.data.toList.drop i = octets.get! i :: octets.data.toList.drop (i + 1) := by
      rw [List.drop_eq_getElem_cons (by exact hlt)]
      have hat : octets.get! i = octets.data[i]! := rfl
      rw [hat, getElem!_pos octets.data i hlt, Array.getElem_toList]
    calc
      ByteArray.toList.loop octets i listed =
          ByteArray.toList.loop octets (i + 1) (octets.get! i :: listed) := by
        rw [ByteArray.toList.loop, if_pos hlt]
      _ = (octets.get! i :: listed).reverse ++ octets.data.toList.drop (i + 1) := ih
      _ = listed.reverse ++ octets.data.toList.drop i := by
        rw [hget, List.reverse_cons, List.append_assoc]
        rfl
  | case2 i listed hge =>
    have hend : octets.data.toList.length ≤ i := Nat.not_lt.mp hge
    rw [ByteArray.toList.loop, if_neg hge, List.drop_of_length_le hend, List.append_nil]

theorem encode_ofList (chars : List Char) :
    encode (String.ofList chars) = chars.flatMap String.utf8EncodeChar := by
  have hoctets : (String.ofList chars).toUTF8.data.toList =
      chars.flatMap String.utf8EncodeChar := by
    simp [List.utf8Encode]
  rw [encode, ByteArray.toList, toList_loop, hoctets]
  rfl

theorem toNat_ofNat {n : Nat} (h : n < 256) : (UInt8.ofNat n).toNat = n :=
  UInt8.toNat_ofNat_of_lt' h

theorem isTrail_iff (b : UInt8) : isTrail b = true ↔ 0x80 ≤ b.toNat ∧ b.toNat ≤ 0xbf := by
  simp [isTrail, UInt8.le_iff_toNat_le]

/-- What follows the first octet of a character is narrowed down by it. -/
theorem isSecond_iff (lead b : UInt8) :
    isSecond lead b = true ↔ (0x80 ≤ b.toNat ∧ b.toNat ≤ 0xbf) ∧
      (lead.toNat = 0xe0 → 0xa0 ≤ b.toNat) ∧ (lead.toNat = 0xed → b.toNat ≤ 0x9f) ∧
      (lead.toNat = 0xf0 → 0x90 ≤ b.toNat) ∧ (lead.toNat = 0xf4 → b.toNat ≤ 0x8f) := by
  simp only [isSecond, Bool.and_eq_true, isTrail_iff, Bool.or_eq_true, bne_iff_ne, ne_eq,
    decide_eq_true_eq, UInt8.le_iff_toNat_le, ← UInt8.toNat_inj, and_assoc]
  simp only [UInt8.reduceToNat, Decidable.imp_iff_not_or]

theorem trailCount_eq (lead : UInt8) :
    trailCount lead =
      if 0xc2 ≤ lead.toNat ∧ lead.toNat ≤ 0xdf then some 1
      else if 0xe0 ≤ lead.toNat ∧ lead.toNat ≤ 0xef then some 2
      else if 0xf0 ≤ lead.toNat ∧ lead.toNat ≤ 0xf4 then some 3
      else none := by
  simp only [trailCount, UInt8.le_iff_toNat_le, UInt8.reduceToNat]

theorem not_lt_of_trailCount {n : Nat} (h : trailCount a = some n) : ¬ a < 0x80 := by
  intro hlt
  have hone : a.toNat < 0x80 := hlt
  rw [trailCount_eq, if_neg (by omega), if_neg (by omega), if_neg (by omega)] at h
  cases h

theorem decodeFrom_one (h : a < 0x80) :
    decodeFrom index read (a :: rest) =
      decodeFrom (index + 1) (Char.ofNat a.toNat :: read) rest := by
  rw [decodeFrom.eq_def]
  exact if_pos h

theorem decodeFrom_two (hcount : trailCount a = some 1)
    (hb : isSecond a b = true) :
    decodeFrom index read (a :: b :: rest) =
      decodeFrom (index + 2) (Char.ofNat (a.toNat % 32 * 64 + trailBits b) :: read) rest := by
  rw [decodeFrom.eq_def]
  dsimp only
  rw [if_neg (not_lt_of_trailCount hcount), hcount]
  simp only [hb, Bool.not_true, Bool.false_eq_true, if_false]

theorem decodeFrom_three (hcount : trailCount a = some 2)
    (hb : isSecond a b = true) (hc : isTrail c = true) :
    decodeFrom index read (a :: b :: c :: rest) =
      decodeFrom (index + 3)
        (Char.ofNat ((a.toNat % 16 * 64 + trailBits b) * 64 + trailBits c) :: read) rest := by
  rw [decodeFrom.eq_def]
  dsimp only
  rw [if_neg (not_lt_of_trailCount hcount), hcount]
  simp only [hb, hc, Bool.not_true, Bool.false_eq_true, if_false]

theorem decodeFrom_four (hcount : trailCount a = some 3)
    (hb : isSecond a b = true) (hc : isTrail c = true) (hd : isTrail d = true) :
    decodeFrom index read (a :: b :: c :: d :: rest) =
      decodeFrom (index + 4) (Char.ofNat
        (((a.toNat % 8 * 64 + trailBits b) * 64 + trailBits c) * 64 + trailBits d) :: read)
        rest := by
  rw [decodeFrom.eq_def]
  dsimp only
  rw [if_neg (not_lt_of_trailCount hcount), hcount]
  simp only [hb, hc, hd, Bool.not_true, Bool.false_eq_true, if_false]

/-- Surrogates are no characters, and there is a last one. -/
theorem char_bounds (c : Char) : c.toNat < 0xd800 ∨ 0xdfff < c.toNat ∧ c.toNat < 0x110000 :=
  c.valid

/-- A character is read back, whatever follows it. -/
theorem decodeFrom_char (c : Char) (index : Nat) (read : List Char) (rest : Bytes) :
    ∃ next, decodeFrom index read (String.utf8EncodeChar c ++ rest) =
      decodeFrom next (c :: read) rest := by
  have hbounds := char_bounds c
  have hchar {n : Nat} (h : n = c.toNat) : Char.ofNat n = c := by rw [h, Char.ofNat_toNat]
  have htrail (n : Nat) : (UInt8.ofNat (n % 64 + 0x80)).toNat = n % 64 + 0x80 :=
    toNat_ofNat (by omega)
  have hval : c.val.toNat = c.toNat := rfl
  unfold String.utf8EncodeChar
  dsimp only
  rw [hval]
  -- one case for each length of an encoded character
  split
  case isTrue hone =>
    have hlead := toNat_ofNat (n := c.toNat) (by omega)
    refine ⟨index + 1, (decodeFrom_one ?_).trans ?_⟩
    · rw [UInt8.lt_iff_toNat_lt, hlead]
      exact Nat.lt_succ_of_le hone
    · rw [hchar hlead]
      rfl
  case isFalse hone =>
    split
    case isTrue htwo =>
      have hlead : (UInt8.ofNat (c.toNat / 64 % 32 + 0xc0)).toNat = c.toNat / 64 % 32 + 0xc0 :=
        toNat_ofNat (by omega)
      refine ⟨index + 2, (decodeFrom_two ?_ ?_).trans ?_⟩
      · rw [trailCount_eq, hlead, if_pos (by omega)]
      · rw [isSecond_iff, hlead, htrail]
        omega
      · rw [hlead, trailBits, htrail, hchar (by omega)]
        rfl
    case isFalse htwo =>
      split
      case isTrue hthree =>
        have hlead : (UInt8.ofNat (c.toNat / 4096 % 16 + 0xe0)).toNat =
            c.toNat / 4096 % 16 + 0xe0 := toNat_ofNat (by omega)
        refine ⟨index + 3, (decodeFrom_three ?_ ?_ ?_).trans ?_⟩
        · rw [trailCount_eq, hlead, if_neg (by omega), if_pos (by omega)]
        · rw [isSecond_iff, hlead, htrail]
          omega
        · rw [isTrail_iff, htrail]
          omega
        · rw [hlead, trailBits, trailBits, htrail, htrail, hchar (by omega)]
          rfl
      case isFalse hthree =>
        have hlead : (UInt8.ofNat (c.toNat / 262144 % 8 + 0xf0)).toNat =
            c.toNat / 262144 % 8 + 0xf0 := toNat_ofNat (by omega)
        refine ⟨index + 4, (decodeFrom_four ?_ ?_ ?_ ?_).trans ?_⟩
        · rw [trailCount_eq, hlead, if_neg (by omega), if_neg (by omega), if_pos (by omega)]
        · rw [isSecond_iff, hlead, htrail]
          omega
        · rw [isTrail_iff, htrail]
          omega
        · rw [isTrail_iff, htrail]
          omega
        · rw [hlead, trailBits, trailBits, trailBits, htrail, htrail, htrail, hchar (by omega)]
          rfl

/-- A text is read back as it was encoded. -/
theorem decode_encode (text : String) : decode (encode text) = .ok text := by
  have hread (chars : List Char) (index : Nat) (read : List Char) :
      decodeFrom index read (chars.flatMap String.utf8EncodeChar) =
        .ok (read.reverse ++ chars) := by
    induction chars generalizing index read with
    | nil => rw [List.flatMap_nil, decodeFrom.eq_def, List.append_nil]
    | cons c chars ih =>
      obtain ⟨next, hnext⟩ := decodeFrom_char c index read (chars.flatMap String.utf8EncodeChar)
      calc
        decodeFrom index read ((c :: chars).flatMap String.utf8EncodeChar) =
            decodeFrom next (c :: read) (chars.flatMap String.utf8EncodeChar) := by
          rw [List.flatMap_cons, hnext]
        _ = .ok ((c :: read).reverse ++ chars) := ih next (c :: read)
        _ = .ok (read.reverse ++ c :: chars) := by
          rw [List.reverse_cons, List.append_assoc]
          rfl
  have hoctets := encode_ofList text.toList
  rw [String.ofList_toList] at hoctets
  rw [decode, hoctets, hread]
  exact congrArg Except.ok String.ofList_toList

end Utf8

/-! ## Hex text -/

namespace Hex

variable {fresh : Bool} {read rest : List Char} {c : Char}

theorem piecesFrom_separator (hc : isSeparator c = true) (rest : List Char) :
    piecesFrom fresh read (c :: rest) = piecesFrom true read rest := by
  rw [piecesFrom.eq_def]
  exact if_pos hc

/-- Whether a character that begins a piece does not begin a mark. -/
def Unmarked (fresh : Bool) (c : Char) (rest : List Char) : Prop :=
  fresh = true → c = '0' → ∀ mark ∈ rest.head?, mark ≠ 'x' ∧ mark ≠ 'X'

theorem unmarked_of_ne (hlower : ∀ later, fresh = true → c = '0' → rest = 'x' :: later → False)
    (hupper : ∀ later, fresh = true → c = '0' → rest = 'X' :: later → False) :
    Unmarked fresh c rest := by
  intro hfresh hzero mark hhead
  obtain ⟨later, rfl⟩ := List.head?_eq_some_iff.mp hhead
  exact ⟨fun h ↦ hlower later hfresh hzero (h ▸ rfl), fun h ↦ hupper later hfresh hzero (h ▸ rfl)⟩

/-- A character is read where no mark stands. -/
theorem piecesFrom_plain (hc : isSeparator c = false) (hmark : Unmarked fresh c rest) :
    piecesFrom fresh read (c :: rest) = piecesFrom false (c :: read) rest := by
  rw [piecesFrom.eq_def]
  dsimp only
  rw [if_neg (Bool.eq_false_iff.mp hc)]
  split
  case h_1 => exact absurd rfl (hmark rfl rfl 'x' rfl).1
  case h_2 => exact absurd rfl (hmark rfl rfl 'X' rfl).2
  case h_3 => rfl

theorem piecesFrom_append_cons (hc : isSeparator c = true) (front back : List Char) :
    piecesFrom fresh read (front ++ c :: back) =
      piecesFrom true (piecesFrom fresh read front) back := by
  induction fresh, read, front using piecesFrom.induct with
  | case1 fresh read => rw [List.nil_append, piecesFrom_separator hc, piecesFrom]
  | case2 fresh read d rest hd ih =>
    rw [List.cons_append, piecesFrom_separator hd, ih, piecesFrom_separator hd]
  | case3 read rest hzero ih | case4 read rest hzero ih =>
    rw [List.cons_append, List.cons_append, piecesFrom, if_neg hzero, ih, piecesFrom, if_neg hzero]
  | case5 fresh read d rest hlower hupper hd ih =>
    have hplain := Bool.eq_false_iff.mpr hd
    have hmark := unmarked_of_ne hlower hupper
    have hlonger : Unmarked fresh d (rest ++ c :: back) := by
      intro hfresh hzero mark hhead
      cases rest with
      | nil =>
        obtain rfl : c = mark := Option.some_inj.mp hhead
        constructor <;> rintro rfl <;> exact absurd hc (by decide)
      | cons first later => exact hmark hfresh hzero mark hhead
    rw [List.cons_append, piecesFrom_plain hplain hlonger, ih, piecesFrom_plain hplain hmark]

theorem piecesFrom_append (fresh : Bool) (read before text : List Char) :
    piecesFrom fresh (read ++ before) text = piecesFrom fresh read text ++ before := by
  induction fresh, read, text using piecesFrom.induct with
  | case1 fresh read => rw [piecesFrom, piecesFrom]
  | case2 fresh read c rest hc ih => rw [piecesFrom_separator hc, ih, piecesFrom_separator hc]
  | case3 read rest hzero ih | case4 read rest hzero ih =>
    rw [piecesFrom, if_neg hzero, ih, piecesFrom, if_neg hzero]
  | case5 fresh read c rest hlower hupper hc ih =>
    have hplain := Bool.eq_false_iff.mpr hc
    have hmark := unmarked_of_ne hlower hupper
    rw [piecesFrom_plain hplain hmark, ← List.cons_append, ih, piecesFrom_plain hplain hmark]

theorem piecesFrom_separators {run : List Char} (h : ∀ c ∈ run, isSeparator c = true)
    (rest : List Char) : piecesFrom true read (run ++ rest) = piecesFrom true read rest := by
  induction run with
  | nil => rfl
  | cons c run ih =>
    obtain ⟨hc, hrun⟩ := List.forall_mem_cons.mp h
    rw [List.cons_append, piecesFrom_separator hc, ih hrun]

/-- A text of characters that separate pieces. -/
def Separates (gap : String) : Prop :=
  ∀ c ∈ gap.toList, isSeparator c = true

theorem separates_space : Separates " " := by
  intro c hc
  obtain rfl : c = ' ' := List.mem_singleton.mp hc
  rfl

/-- The pieces of two texts with a gap between them. -/
theorem pieces_append {gap : String} (hgap : Separates gap) (hsome : gap ≠ "")
    (front back : String) : pieces (front ++ gap ++ back) = pieces front ++ pieces back := by
  unfold Separates at hgap
  cases hlist : gap.toList with
  | nil => exact absurd (String.toList_eq_nil_iff.mp hlist) hsome
  | cons c run =>
    rw [hlist] at hgap
    obtain ⟨hc, hrun⟩ := List.forall_mem_cons.mp hgap
    have hread := piecesFrom_append true [] (piecesFrom true [] front.toList) back.toList
    rw [List.nil_append] at hread
    calc
      pieces (front ++ gap ++ back) =
          (piecesFrom true [] (front.toList ++ c :: (run ++ back.toList))).reverse := by
        rw [pieces, String.toList_append, String.toList_append, List.append_assoc, hlist,
          List.cons_append]
      _ = (piecesFrom true (piecesFrom true [] front.toList) back.toList).reverse := by
        rw [piecesFrom_append_cons hc, piecesFrom_separators hrun]
      _ = (piecesFrom true [] back.toList ++ piecesFrom true [] front.toList).reverse := by
        rw [hread]
      _ = pieces front ++ pieces back := List.reverse_append

theorem pieces_of_separates {gap : String} (hgap : Separates gap) : pieces gap = [] := by
  have hskipped := @piecesFrom_separators [] _ hgap []
  rw [List.append_nil, piecesFrom] at hskipped
  rw [pieces, hskipped, List.reverse_nil]

/-- A gap behind a text makes no difference. -/
theorem pieces_append_gap {gap : String} (hgap : Separates gap) (text : String) :
    pieces (text ++ gap) = pieces text := by
  by_cases hsome : gap = ""
  · rw [hsome, String.append_empty]
  · have hboth := pieces_append hgap hsome text ""
    have hnone : pieces "" = [] := pieces_of_separates (List.forall_mem_nil _)
    rwa [hnone, List.append_nil, String.append_empty] at hboth

variable {n : Nat}

/-- The characters that are digits. -/
theorem digit_bounds (h : digitValue? c = some n) :
    0x30 ≤ c.toNat ∧ c.toNat ≤ 0x39 ∧ n = c.toNat - 0x30 ∨
      0x61 ≤ c.toNat ∧ c.toNat ≤ 0x66 ∧ n = c.toNat - 0x61 + 10 ∨
      0x41 ≤ c.toNat ∧ c.toNat ≤ 0x46 ∧ n = c.toNat - 0x41 + 10 := by
  unfold digitValue? at h
  split at h
  case isTrue hdecimal => exact .inl ⟨hdecimal.1, hdecimal.2, (Option.some_inj.mp h).symm⟩
  case isFalse =>
    split at h
    case isTrue hlower => exact .inr (.inl ⟨hlower.1, hlower.2, (Option.some_inj.mp h).symm⟩)
    case isFalse =>
      split at h
      case isTrue hupper => exact .inr (.inr ⟨hupper.1, hupper.2, (Option.some_inj.mp h).symm⟩)
      case isFalse => cases h

/-- A digit neither separates pieces nor ends a mark. -/
theorem digit_plain (h : digitValue? c = some n) :
    isSeparator c = false ∧ c ≠ 'x' ∧ c ≠ 'X' := by
  have hother {d : Char} (hd : digitValue? d = none) : c ≠ d := by
    rintro rfl
    rw [hd] at h
    cases h
  have hblank : isBlank c = false := by
    have hbounds := digit_bounds h
    simp only [isBlank, Spans.holds, blanks, List.any_eq_false, List.mem_cons, List.not_mem_nil,
      or_false, forall_eq_or_imp, forall_eq, Bool.and_eq_true, decide_eq_true_eq]
    omega
  refine ⟨?_, hother rfl, hother rfl⟩
  have hcomma : c ≠ ',' := hother rfl
  rw [isSeparator, hblank, beq_eq_false_iff_ne.mpr hcomma]
  rfl

/-- The octet of a digit, and what it stands for. -/
theorem nibble_digit (h : digitValue? c = some n) :
    String.utf8EncodeChar c = [UInt8.ofNat c.toNat] ∧
      nibble (UInt8.ofNat c.toNat) = .ok (UInt8.ofNat n) := by
  have hbounds := digit_bounds h
  constructor
  · have hval : c.val.toNat = c.toNat := rfl
    unfold String.utf8EncodeChar
    dsimp only
    rw [hval, if_pos (by omega)]
  · generalize c.toNat = point at hbounds
    rcases hbounds with ⟨hfirst, hlast, rfl⟩ | ⟨hfirst, hlast, rfl⟩ | ⟨hfirst, hlast, rfl⟩ <;>
      interval_cases point <;> rfl

theorem join_nibbles (b : UInt8) :
    UInt8.ofNat (b.toNat / 16) <<< 4 ||| UInt8.ofNat (b.toNat % 16) = b := by
  have hb : b.toNat < 256 := b.toNat_lt
  have hlow : b.toNat % 16 < 2 ^ 4 := Nat.mod_lt _ (by decide)
  have hfour : (4 : UInt8).toNat % 8 = 4 := rfl
  have hshift : (b.toNat / 16) <<< 4 % 2 ^ 8 = (b.toNat / 16) <<< 4 := by
    rw [Nat.shiftLeft_eq]
    exact Nat.mod_eq_of_lt (by omega)
  apply UInt8.toNat_inj.mp
  calc
    (UInt8.ofNat (b.toNat / 16) <<< 4 ||| UInt8.ofNat (b.toNat % 16)).toNat =
        (b.toNat / 16) <<< 4 ||| b.toNat % 16 := by
      rw [UInt8.toNat_or, UInt8.toNat_shiftLeft, Utf8.toNat_ofNat (by omega),
        Utf8.toNat_ofNat (by omega), hfour, hshift]
    _ = b.toNat / 16 * 2 ^ 4 + b.toNat % 16 := by
      rw [← Nat.shiftLeft_add_eq_or_of_lt hlow, Nat.shiftLeft_eq]
    _ = b.toNat := by omega

/-- Digits spell octets, two for each, the high one first. -/
inductive Spells : List Char → Bytes → Prop where
  | nil : Spells [] []
  | cons {high low : Char} {digits : List Char} {b : UInt8} {octets : Bytes}
      (hhigh : digitValue? high = some (b.toNat / 16))
      (hlow : digitValue? low = some (b.toNat % 16)) (hlater : Spells digits octets) :
      Spells (high :: low :: digits) (b :: octets)

theorem Spells.append {digits more : List Char} {octets rest : Bytes} (h : Spells digits octets)
    (hmore : Spells more rest) : Spells (digits ++ more) (octets ++ rest) := by
  induction h with
  | nil => exact hmore
  | cons hhigh hlow _ ih => exact .cons hhigh hlow ih

theorem Spells.length {digits : List Char} {octets : Bytes} (h : Spells digits octets) :
    (digits.flatMap String.utf8EncodeChar).length = 2 * octets.length := by
  induction h with
  | nil => rfl
  | @cons high low digits b octets hhigh hlow _ ih =>
    calc
      ((high :: low :: digits).flatMap String.utf8EncodeChar).length =
          (String.utf8EncodeChar high).length + ((String.utf8EncodeChar low).length +
            (digits.flatMap String.utf8EncodeChar).length) := by
        rw [List.flatMap_cons, List.flatMap_cons, List.length_append, List.length_append]
      _ = 1 + (1 + 2 * octets.length) := by
        rw [(nibble_digit hhigh).1, (nibble_digit hlow).1, ih]
        rfl
      _ = 2 * (b :: octets).length := by
        rw [List.length_cons]
        omega

theorem readPairs_of_spells {digits : List Char} {octets : Bytes} (h : Spells digits octets)
    (read : Bytes) :
    readPairs read (digits.flatMap String.utf8EncodeChar) = .ok (read.reverse ++ octets) := by
  induction h generalizing read with
  | nil => exact congrArg Except.ok (List.append_nil _).symm
  | cons hhigh hlow _ ih =>
    obtain ⟨hfirst, hhigh⟩ := nibble_digit hhigh
    obtain ⟨hsecond, hlow⟩ := nibble_digit hlow
    rw [List.flatMap_cons, List.flatMap_cons, hfirst, hsecond]
    simp only [List.cons_append, List.nil_append, readPairs, hhigh, hlow, join_nibbles, ih,
      List.reverse_cons, List.append_assoc]

/-- A text whose pieces spell octets is read as these octets. -/
theorem decode_of_spells {text : String} {octets : Bytes} (h : Spells (pieces text) octets) :
    decode text = .ok octets := by
  have heven : ¬ 2 * octets.length % 2 ≠ 0 := by omega
  rw [decode, Utf8.encode_ofList, h.length, if_neg heven]
  exact readPairs_of_spells h []

def digitsOf (octets : Bytes) : List Char :=
  octets.flatMap fun b ↦ (pair b).toList

theorem digitValue?_hexDigit (hn : n < 16) : digitValue? (hexDigit n) = some n := by
  interval_cases n <;> rfl

theorem toList_pair (b : UInt8) :
    (pair b).toList = [hexDigit (b.toNat / 16 % 16), hexDigit (b.toNat % 16)] :=
  String.toList_ofList

theorem spells_digitsOf (octets : Bytes) : Spells (digitsOf octets) octets := by
  induction octets with
  | nil => exact .nil
  | cons b octets ih =>
    have hb : b.toNat < 256 := b.toNat_lt
    have hhigh : b.toNat / 16 % 16 = b.toNat / 16 := Nat.mod_eq_of_lt (by omega)
    rw [digitsOf, List.flatMap_cons, toList_pair, hhigh]
    exact .cons (digitValue?_hexDigit (by omega)) (digitValue?_hexDigit (by omega)) ih

theorem pieces_of_digits {text : String} {octets : Bytes} (h : Spells text.toList octets) :
    pieces text = text.toList := by
  have hread {digits : List Char} {octets : Bytes} (h : Spells digits octets) (fresh : Bool)
      (read : List Char) : piecesFrom fresh read digits = digits.reverse ++ read := by
    induction h generalizing fresh read with
    | nil => rw [piecesFrom]; rfl
    | @cons high low digits _ _ hhigh hlow _ ih =>
      obtain ⟨hfirst, -⟩ := digit_plain hhigh
      obtain ⟨hsecond, hmark⟩ := digit_plain hlow
      have hunmarked : Unmarked fresh high (low :: digits) := by
        rintro - - mark hhead
        obtain rfl : low = mark := Option.some_inj.mp hhead
        exact hmark
      have hwithin : Unmarked false low digits := fun h ↦ Bool.noConfusion h
      rw [piecesFrom_plain hfirst hunmarked, piecesFrom_plain hsecond hwithin, ih]
      simp only [List.reverse_cons, List.append_assoc, List.cons_append, List.nil_append]
  rw [pieces, hread h, List.append_nil, List.reverse_reverse]

theorem digitsOf_cons (b : UInt8) (octets : Bytes) :
    digitsOf (b :: octets) = digitsOf [b] ++ digitsOf octets := by
  simp only [digitsOf, List.flatMap_cons, List.flatMap_nil, List.append_nil]

theorem digitsOf_singleton (b : UInt8) : digitsOf [b] = (pair b).toList :=
  List.append_nil _

/-- Hex text without separators is all digits. -/
theorem toList_encode_empty (octets : Bytes) : (encode octets "").toList = digitsOf octets := by
  unfold encode
  induction octets with
  | nil => rfl
  | cons b octets ih =>
    rw [digitsOf_cons, digitsOf_singleton, ← ih]
    cases octets with
    | nil =>
      rw [List.map_singleton, String.intercalate_singleton]
      exact (List.append_nil _).symm
    | cons c octets =>
      rw [List.map_cons, List.map_cons, String.intercalate_cons_cons, String.append_empty,
        String.toList_append]

/-- The pieces of hex text that was written with any separator are the digits of the octets. -/
theorem pieces_encode {separator : String} (h : Separates separator) (octets : Bytes) :
    pieces (encode octets separator) = digitsOf octets := by
  have halone (octets : Bytes) {text : String} (htext : text.toList = digitsOf octets) :
      pieces text = digitsOf octets := by
    rw [← htext]
    exact pieces_of_digits (htext ▸ spells_digitsOf octets)
  by_cases hsome : separator = ""
  case pos =>
    rw [hsome]
    exact halone octets (toList_encode_empty octets)
  case neg =>
    unfold encode
    induction octets with
    | nil => exact pieces_of_separates (List.forall_mem_nil _)
    | cons b octets ih =>
      have hpair : pieces (pair b) = digitsOf [b] := halone [b] (digitsOf_singleton b).symm
      cases octets with
      | nil =>
        rw [List.map_singleton, String.intercalate_singleton]
        exact hpair
      | cons c octets =>
        rw [List.map_cons] at ih
        let later := separator.intercalate (pair c :: octets.map pair)
        calc
          pieces (separator.intercalate ((b :: c :: octets).map pair)) =
              pieces (pair b ++ separator ++ later) := by
            rw [List.map_cons, List.map_cons, String.intercalate_cons_cons]
          _ = pieces (pair b) ++ pieces later := pieces_append h hsome _ _
          _ = digitsOf [b] ++ digitsOf (c :: octets) := by rw [hpair, ih]
          _ = digitsOf (b :: c :: octets) := (digitsOf_cons b _).symm

/-- Octets that were written as hex text are read back. -/
theorem decode_encode {separator : String} (h : Separates separator) (octets : Bytes) :
    decode (encode octets separator) = .ok octets := by
  apply decode_of_spells
  rw [pieces_encode h]
  exact spells_digitsOf octets

end Hex

end FramedLink.Text
