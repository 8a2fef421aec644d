import FramedLink.Proofs.Texts
import FramedLink.Tool.Input

/-!
# Layouts of hex text

Hex text falls into words at white space and commas, and a mark in front of a word does not count:
what is read are the characters of all words that are left (`Hex.pieces_eq`). So the digits of some
octets can be cut anywhere, marked and spread out without being read differently
(`Hex.pieces_layOut`), and a text is refused just if what is left of its words is odd in number or
not all digits (`Hex.exists_decode_iff`).
-/

namespace FramedLink

namespace Text.Hex

/-- The words of a text: what stands between characters that separate, where anything does. -/
def words (text : List Char) : List (List Char) :=
  (text.splitOnP isSeparator).filter (· ≠ [])

/-- A word without the mark in front of it. -/
def unmarked : List Char → List Char
  | '0' :: 'x' :: rest => rest
  | '0' :: 'X' :: rest => rest
  | word => word

/-- The octets of what the words of a text hold beside their marks. -/
def digitOctets (text : String) : Bytes :=
  (words text.toList).flatMap fun word ↦ Utf8.encode (String.ofList (unmarked word))

variable {c : Char} {word : List Char}

/-- Words end at a character that separates. -/
theorem words_append_cons (hc : isSeparator c = true) (front back : List Char) :
    words (front ++ c :: back) = words front ++ words back := by
  rw [words, List.splitOnP_append_cons front back hc, List.filter_append]
  rfl

theorem words_of_forall (h : ∀ c ∈ word, isSeparator c = false) (hsome : word ≠ []) :
    words word = [word] := by
  rw [words, List.splitOnP_eq_singleton h]
  exact List.filter_cons_of_pos (decide_eq_true hsome)

/-- Inside of a word, every character is read. -/
theorem piecesFrom_false (h : ∀ c ∈ word, isSeparator c = false) (read : List Char) :
    piecesFrom false read word = word.reverse ++ read := by
  induction word generalizing read with
  | nil => rw [piecesFrom]; rfl
  | cons c word ih =>
    obtain ⟨hc, hword⟩ := List.forall_mem_cons.mp h
    have hwithin : Unmarked false c word := fun hfresh ↦ Bool.noConfusion hfresh
    rw [piecesFrom_plain hc hwithin, ih hword, List.reverse_cons, List.append_assoc]
    rfl

theorem piecesFrom_word (h : ∀ c ∈ word, isSeparator c = false) :
    piecesFrom true [] word = (unmarked word).reverse := by
  have hzero : ¬ isSeparator '0' = true := by decide
  have hrest {c d : Char} {rest : List Char} (hword : word = c :: d :: rest) :
      ∀ e ∈ rest, isSeparator e = false := fun e he ↦
    h e (hword ▸ List.mem_cons_of_mem c (List.mem_cons_of_mem d he))
  unfold unmarked
  split
  case h_1 rest =>
    rw [piecesFrom, if_neg hzero, piecesFrom_false (hrest rfl), List.append_nil]
  case h_2 rest =>
    rw [piecesFrom, if_neg hzero, piecesFrom_false (hrest rfl), List.append_nil]
  case h_3 hlower hupper =>
    cases word with
    | nil => rw [piecesFrom]; rfl
    | cons c rest =>
      obtain ⟨hc, hword⟩ := List.forall_mem_cons.mp h
      have hplain : Unmarked true c rest := unmarked_of_ne
        (fun later _ hzero hrest ↦ hlower later (by rw [hzero, hrest]))
        (fun later _ hzero hrest ↦ hupper later (by rw [hzero, hrest]))
      rw [piecesFrom_plain hc hplain, piecesFrom_false hword, List.reverse_cons]

/-- What is read are the words without their marks. -/
theorem reverse_piecesFrom (text : List Char) :
    (piecesFrom true [] text).reverse = (words text).flatMap unmarked := by
  by_cases hnone : ∀ c ∈ text, isSeparator c = false
  case pos =>
    by_cases hsome : text = []
    · rw [hsome, piecesFrom]
      rfl
    · rw [piecesFrom_word hnone, words_of_forall hnone hsome, List.reverse_reverse,
        List.flatMap_singleton]
  case neg =>
    simp only [not_forall, Bool.not_eq_false] at hnone
    obtain ⟨c, hmem, hc⟩ := hnone
    obtain ⟨front, back, htext⟩ := List.append_of_mem hmem
    have hlength := congrArg List.length htext
    rw [List.length_append, List.length_cons] at hlength
    have hfront : front.length < text.length := by omega
    have hback : back.length < text.length := by omega
    have hread := piecesFrom_append true [] (piecesFrom true [] front) back
    rw [List.nil_append] at hread
    rw [htext]
    calc
      (piecesFrom true [] (front ++ c :: back)).reverse =
          (piecesFrom true (piecesFrom true [] front) back).reverse := by
        rw [piecesFrom_append_cons hc]
      _ = (piecesFrom true [] front).reverse ++ (piecesFrom true [] back).reverse := by
        rw [hread, List.reverse_append]
      _ = (words front).flatMap unmarked ++ (words back).flatMap unmarked := by
        rw [reverse_piecesFrom front, reverse_piecesFrom back]
      _ = (words (front ++ c :: back)).flatMap unmarked := by
        rw [words_append_cons hc, List.flatMap_append]
  termination_by text.length

theorem pieces_eq (text : String) : pieces text = (words text.toList).flatMap unmarked :=
  reverse_piecesFrom text.toList

/-- What is read, as octets. -/
theorem encode_pieces (text : String) :
    Utf8.encode (String.ofList (pieces text)) = digitOctets text := by
  simp only [pieces_eq, digitOctets, Utf8.encode_ofList, List.flatMap_assoc]

/-- A piece of hex text: a mark, some digits, and what separates them from the next piece. -/
structure Piece where
  mark : String
  digits : String
  gap : String

def layOut : List Piece → String
  | [] => ""
  | piece :: rest => piece.mark ++ piece.digits ++ piece.gap ++ layOut rest

/-- Pieces that can be told apart, behind some characters that separate: in each there is one of
the marks or none, there are digits, and what stands behind it separates; only behind the last piece
there may be nothing. -/
structure LaidOut (lead : String) (pieces : List Piece) : Prop where
  lead : Separates lead
  mark : ∀ piece ∈ pieces, piece.mark ∈ ["", "0x", "0X"]
  digits : ∀ piece ∈ pieces, piece.digits ≠ ""
  gap : ∀ piece ∈ pieces, Separates piece.gap
  apart : ∀ piece ∈ pieces.dropLast, piece.gap ≠ ""

theorem separates_of_all {gap : String} (h : gap.toList.all isSeparator = true) : Separates gap :=
  List.all_eq_true.mp h

/-- Characters that separate make no difference in front of a text. -/
theorem pieces_gap_append {gap : String} (hgap : Separates gap) (text : String) :
    pieces (gap ++ text) = pieces text := by
  rw [pieces, String.toList_append, piecesFrom_separators hgap, pieces]

theorem Spells.isSome_digitValue? {digits : List Char} {octets : Bytes} (h : Spells digits octets) :
    ∀ c ∈ digits, (digitValue? c).isSome = true := by
  induction h with
  | nil => exact List.forall_mem_nil _
  | cons hhigh hlow _ ih =>
    refine List.forall_mem_cons.mpr ⟨?_, List.forall_mem_cons.mpr ⟨?_, ih⟩⟩
    · rw [hhigh]; rfl
    · rw [hlow]; rfl

/-- Digits do not begin with a mark. -/
theorem unmarked_digits {digits : List Char} (h : ∀ c ∈ digits, (digitValue? c).isSome = true) :
    unmarked digits = digits := by
  unfold unmarked
  split
  case h_1 => exact absurd (h 'x' (List.mem_cons_of_mem _ List.mem_cons_self)) (by decide)
  case h_2 => exact absurd (h 'X' (List.mem_cons_of_mem _ List.mem_cons_self)) (by decide)
  case h_3 => rfl

/-- A marked piece is read as its digits. -/
theorem pieces_marked {mark digits : String} (hmark : mark ∈ ["", "0x", "0X"])
    (hdigits : ∀ c ∈ digits.toList, (digitValue? c).isSome = true) :
    pieces (mark ++ digits) = digits.toList := by
  have hplain : ∀ c ∈ digits.toList, isSeparator c = false := by
    intro c hc
    obtain ⟨n, hn⟩ := Option.isSome_iff_exists.mp (hdigits c hc)
    exact (digit_plain hn).1
  have hword : ∀ c ∈ (mark ++ digits).toList, isSeparator c = false := by
    have hmarks : ["", "0x", "0X"].all (·.toList.all (!isSeparator ·)) = true := by decide
    have hown : ∀ c ∈ mark.toList, isSeparator c = false := by
      simpa using List.all_eq_true.mp hmarks mark hmark
    rw [String.toList_append]
    exact List.forall_mem_append.mpr ⟨hown, hplain⟩
  have hread : unmarked (mark ++ digits).toList = digits.toList := by
    rw [String.toList_append]
    simp only [List.mem_cons, List.not_mem_nil, or_false] at hmark
    obtain rfl | rfl | rfl := hmark
    · exact unmarked_digits hdigits
    · rfl
    · rfl
  rw [pieces, piecesFrom_word hword, hread, List.reverse_reverse]

theorem pieces_layOut {lead : String} {laid : List Piece} (h : LaidOut lead laid)
    (hdigits : ∀ c ∈ laid.flatMap (·.digits.toList), (digitValue? c).isSome = true) :
    pieces (lead ++ layOut laid) = laid.flatMap (·.digits.toList) := by
  obtain ⟨hlead, hmark, -, hgap, hapart⟩ := h
  rw [pieces_gap_append hlead]
  induction laid with
  | nil => exact pieces_of_separates (List.forall_mem_nil _)
  | cons piece rest ih =>
    rw [List.flatMap_cons] at hdigits ⊢
    obtain ⟨hown, hothers⟩ := List.forall_mem_append.mp hdigits
    obtain ⟨hfirst, hmarks⟩ := List.forall_mem_cons.mp hmark
    obtain ⟨hbehind, hgaps⟩ := List.forall_mem_cons.mp hgap
    have hread : pieces (piece.mark ++ piece.digits) = piece.digits.toList :=
      pieces_marked hfirst hown
    cases rest with
    | nil =>
      calc
        pieces (layOut [piece]) = pieces (piece.mark ++ piece.digits ++ piece.gap) := by
          rw [layOut, layOut, String.append_empty]
        _ = pieces (piece.mark ++ piece.digits) := pieces_append_gap hbehind _
        _ = piece.digits.toList := hread
        _ = piece.digits.toList ++ [] := (List.append_nil _).symm
    | cons next later =>
      rw [List.dropLast_cons_of_ne_nil (List.cons_ne_nil _ _)] at hapart
      obtain ⟨hsome, hlater⟩ := List.forall_mem_cons.mp hapart
      calc
        pieces (layOut (piece :: next :: later)) =
            pieces (piece.mark ++ piece.digits ++ piece.gap ++ layOut (next :: later)) := by
          rw [layOut]
        _ = pieces (piece.mark ++ piece.digits) ++ pieces (layOut (next :: later)) :=
          pieces_append hbehind hsome _ _
        _ = piece.digits.toList ++ (next :: later).flatMap (·.digits.toList) := by
          rw [hread, ih hothers hmarks hgaps hlater]

def IsDigit (b : UInt8) : Prop :=
  (digitValue? (Char.ofNat b.toNat)).isSome = true

theorem isDigit_iff (b : UInt8) : IsDigit b ↔ ∃ n, nibble b = .ok n := by
  constructor
  · intro h
    obtain ⟨n, hn⟩ := Option.isSome_iff_exists.mp h
    have hvalid : b.toNat.isValidChar := .inl (Nat.lt_trans b.toNat_lt (by decide))
    have hcode : (Char.ofNat b.toNat).toNat = b.toNat := congrArg Char.toNat (dif_pos hvalid)
    have hnibble := (nibble_digit hn).2
    rw [hcode, UInt8.ofNat_toNat] at hnibble
    exact ⟨_, hnibble⟩
  · rintro ⟨n, hn⟩
    have hbounds : 0x30 ≤ b ∧ b ≤ 0x39 ∨ 0x61 ≤ b ∧ b ≤ 0x66 ∨ 0x41 ≤ b ∧ b ≤ 0x46 := by
      by_contra hnone
      simp only [not_or] at hnone
      rw [nibble, if_neg hnone.1, if_neg hnone.2.1, if_neg hnone.2.2] at hn
      cases hn
    simp only [UInt8.le_iff_toNat_le, UInt8.reduceToNat] at hbounds
    unfold IsDigit
    generalize b.toNat = code at hbounds
    rcases hbounds with ⟨hfirst, hlast⟩ | ⟨hfirst, hlast⟩ | ⟨hfirst, hlast⟩ <;>
      interval_cases code <;> rfl

theorem not_exists_ok {ε α : Type} {fault : ε} :
    ¬ ∃ value, (Except.error fault : Except ε α) = .ok value := by
  rintro ⟨_, h⟩
  cases h

/-- Pairs of octets are read if all of them are digits. -/
theorem exists_readPairs_iff {octets : Bytes} (heven : octets.length % 2 = 0) (read : Bytes) :
    (∃ bytes, readPairs read octets = .ok bytes) ↔ ∀ b ∈ octets, IsDigit b := by
  induction read, octets using readPairs.induct with
  | case1 read high low rest fault hhigh =>
    rw [readPairs, hhigh]
    refine iff_of_false not_exists_ok fun hall ↦ ?_
    obtain ⟨n, hn⟩ := (isDigit_iff high).mp (hall high List.mem_cons_self)
    rw [hhigh] at hn
    cases hn
  | case2 read high low rest h hhigh fault hlow =>
    simp only [readPairs, hhigh, hlow]
    refine iff_of_false not_exists_ok fun hall ↦ ?_
    obtain ⟨n, hn⟩ := (isDigit_iff low).mp (hall low (List.mem_cons_of_mem _ List.mem_cons_self))
    rw [hlow] at hn
    cases hn
  | case3 read high low rest h hhigh l hlow ih =>
    have hdigits : IsDigit high ∧ IsDigit low :=
      ⟨(isDigit_iff high).mpr ⟨h, hhigh⟩, (isDigit_iff low).mpr ⟨l, hlow⟩⟩
    rw [List.length_cons, List.length_cons] at heven
    simp only [readPairs, hhigh, hlow]
    rw [ih (by omega), List.forall_mem_cons, List.forall_mem_cons]
    exact ⟨fun hrest ↦ ⟨hdigits.1, hdigits.2, hrest⟩, fun hall ↦ hall.2.2⟩
  | case4 octets read hshort =>
    cases octets with
    | nil => exact iff_of_true ⟨_, rfl⟩ (List.forall_mem_nil _)
    | cons high rest =>
      cases rest with
      | nil => cases heven
      | cons low rest => exact absurd rfl (hshort high low rest)

/-- A text is read just if what is left of its words is even in number and all digits. -/
theorem exists_decode_iff (text : String) : (∃ octets, decode text = .ok octets) ↔
    (digitOctets text).length % 2 = 0 ∧ ∀ b ∈ digitOctets text, IsDigit b := by
  rw [decode, encode_pieces]
  by_cases heven : (digitOctets text).length % 2 = 0
  case pos =>
    rw [if_neg (not_not.mpr heven), exists_readPairs_iff heven]
    exact ⟨fun h ↦ ⟨heven, h⟩, fun h ↦ h.2⟩
  case neg =>
    rw [if_pos heven]
    exact iff_of_false not_exists_ok fun h ↦ heven h.1

end Text.Hex

namespace Tool

open Text.Hex

/-- The digits of octets are read back from every layout: cut anywhere, marked or not, and spread
out with white space and commas. What was written with any separator of these is such a layout. All
text is refused, as invalid data, of which an odd number of octets or one that is no digit is left
when the mark is taken from each word. -/
theorem readHex_layOut :
    (∀ lead laid octets, LaidOut lead laid → Spells (laid.flatMap (·.digits.toList)) octets →
      readHex (lead ++ layOut laid) = .ok octets) ∧
    (∀ separator octets, Separates separator → readHex (encode octets separator) = .ok octets) ∧
    ∀ text, (∃ message, readHex text = .error ⟨.invalidData, message⟩) ↔
      (digitOctets text).length % 2 = 1 ∨ ∃ b ∈ digitOctets text, ¬ IsDigit b := by
  refine ⟨fun lead laid octets hlaid hspells ↦ ?_, fun separator octets hseparator ↦ ?_,
    fun text ↦ ?_⟩
  · rw [← pieces_layOut hlaid hspells.isSome_digitValue?] at hspells
    rw [readHex, decode_of_spells hspells]
    rfl
  · rw [readHex, decode_encode hseparator]
    rfl
  · have hread := exists_decode_iff text
    have hcontrary : ¬ ((digitOctets text).length % 2 = 0 ∧ ∀ b ∈ digitOctets text, IsDigit b) ↔
        (digitOctets text).length % 2 = 1 ∨ ∃ b ∈ digitOctets text, ¬ IsDigit b := by
      rw [not_and_or, Nat.mod_two_not_eq_zero, not_forall]
      simp only [not_forall, exists_prop]
    rw [← hcontrary, ← hread, readHex]
    cases decode text with
    | ok octets => exact iff_of_false (by rintro ⟨_, h⟩; cases h) (not_not.mpr ⟨octets, rfl⟩)
    | error fault => exact iff_of_true ⟨_, rfl⟩ not_exists_ok

/-- Two octets in three pieces, two of them cut inside an octet; and a text in which a word has the
mark twice. -/
theorem readHex_layOut_three :
    readHex "\n0x2, 0X3F\tf " = .ok [0x23, 0xff] ∧
      readHex (encode [0x23, 0xff] "\t,") = .ok [0x23, 0xff] ∧
      ∃ message, readHex "0x0x23" = .error ⟨.invalidData, message⟩ := by
  let laid : List Piece := [⟨"0x", "2", ", "⟩, ⟨"0X", "3F", "\t"⟩, ⟨"", "f", " "⟩]
  have hlaid : LaidOut "\n" laid := by
    constructor
    case lead => exact separates_of_all rfl
    case mark | digits | apart => decide
    case gap =>
      have hgaps : laid.all (·.gap.toList.all isSeparator) = true := by decide
      exact fun piece hpiece ↦ separates_of_all (List.all_eq_true.mp hgaps piece hpiece)
  have hspells : Spells (laid.flatMap (·.digits.toList)) [0x23, 0xff] :=
    .cons rfl rfl (.cons rfl rfl .nil)
  have hread := readHex_layOut.1 "\n" laid [0x23, 0xff] hlaid hspells
  simp only [laid, layOut, String.reduceAppend] at hread
  have hgap : Separates "\t," := separates_of_all rfl
  have htwice : digitOctets "0x0x23" = [0x30, 0x78, 0x32, 0x33] := by
    have hwords : words "0x0x23".toList = [['0', 'x', '0', 'x', '2', '3']] := by decide
    rw [digitOctets, hwords, List.flatMap_singleton]
    exact Text.Utf8.encode_ofList ['0', 'x', '2', '3']
  have hmark : ¬ IsDigit 0x78 := by
    unfold IsDigit
    decide
  have hmem : (0x78 : UInt8) ∈ digitOctets "0x0x23" := by
    rw [htwice]
    decide
  exact ⟨hread, readHex_layOut.2.1 _ _ hgap,
    (readHex_layOut.2.2 _).mpr (.inr ⟨0x78, hmem, hmark⟩)⟩

end Tool

end FramedLink
