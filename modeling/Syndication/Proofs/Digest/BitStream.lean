import Mathlib.Data.Nat.Bitwise
import Mathlib.Tactic.Ring
import Syndication.Digest.Base32

/-!
# A byte sequence as a stream of bits

The bits of the bytes, the most significant of each first, are one stream, and the symbol at a place
of a text is that of the value of five bits of it. What a writer has written are the first symbols
of the stream that it has read, and the low bits of its buffer are the bits of the stream that no
symbol has taken: `Writer.Follows` says so, and writing a symbol, shifting a byte in and clearing
the bits above all keep it.

Fewer than five bits are left between bytes, and they are all that the buffer has. A byte more makes
it twelve bits at most, so none is shifted out.
-/

namespace Syndication.Base32

/-- The bits of a byte, the most significant first. -/
def bitsOfByte (byte : UInt8) : List Bool :=
  (List.range 8).map fun place => byte.toNat.testBit (7 - place)

/-- The bits of a byte sequence. -/
def bits (bytes : List UInt8) : List Bool := bytes.flatMap bitsOfByte

/-- The number that bits amount to, the most significant first. -/
def value (stream : List Bool) : Nat := stream.foldl (fun value bit => 2 * value + bit.toNat) 0

/-- The five bits of a stream that belong to the symbol at a place. -/
def window (stream : List Bool) (place : Nat) : List Bool := (stream.drop (5 * place)).take 5

/-- The first symbols of a stream. -/
def symbolsOf (stream : List Bool) (count : Nat) : List Char :=
  (List.range count).map fun place => symbol (value (window stream place))

variable {stream more : List Bool} {count length : Nat} {symbols text : List Char} {buffer : UInt16}
  {width below : Nat} {writer next : Writer} {byte : UInt8}

/-! ## Values of bits -/

/-- Further bits double the value and add their own. -/
theorem foldl_value (start : Nat) (stream : List Bool) :
    stream.foldl (fun value bit => 2 * value + bit.toNat) start =
      start * 2 ^ stream.length + value stream := by
  unfold value
  induction stream generalizing start with
  | nil => simp
  | cons bit rest inductionHypothesis =>
    rw [List.foldl_cons, List.foldl_cons, inductionHypothesis, inductionHypothesis (2 * 0 + _),
      List.length_cons, Nat.pow_succ]
    ring

/-- Bits in front count for the powers that the bits behind do not reach. -/
theorem value_append (stream more : List Bool) :
    value (stream ++ more) = value stream * 2 ^ more.length + value more := by
  rw [value, List.foldl_append, foldl_value]
  rfl

/-- The first bit counts for the power that the others do not reach. -/
theorem value_cons (bit : Bool) (rest : List Bool) :
    value (bit :: rest) = bit.toNat * 2 ^ rest.length + value rest := by
  rw [← List.singleton_append, value_append, value, List.foldl_cons, List.foldl_nil, Nat.mul_zero,
    Nat.zero_add]

/-- Bits amount to less than the power that they do not reach. -/
theorem value_lt (stream : List Bool) : value stream < 2 ^ stream.length := by
  induction stream with
  | nil => decide
  | cons bit rest inductionHypothesis =>
    rw [value_cons, List.length_cons, Nat.pow_succ]
    have small := bit.toNat_le
    have scaled := Nat.mul_le_mul_right (2 ^ rest.length) small
    omega

/-- The low bits of a number amount to its remainder. -/
theorem value_low_bits (number count : Nat) :
    value ((List.range count).map fun place => number.testBit (count - 1 - place)) =
      number % 2 ^ count := by
  induction count with
  | zero => simp [value, Nat.mod_one]
  | succ count inductionHypothesis =>
    have lower :
        ((List.range count).map fun place => number.testBit (count + 1 - 1 - (place + 1))) =
          (List.range count).map fun place => number.testBit (count - 1 - place) := by
      refine List.map_congr_left fun place _ => ?_
      rw [show count + 1 - 1 - (place + 1) = count - 1 - place by omega]
    rw [List.range_succ_eq_map, List.map_cons, List.map_map]
    show value (number.testBit count ::
      (List.range count).map fun place => number.testBit (count + 1 - 1 - (place + 1))) = _
    rw [lower, value_cons, inductionHypothesis, List.length_map, List.length_range,
      Nat.toNat_testBit, Nat.pow_succ, Nat.mod_mul]
    ring

/-- The bits of a byte amount to the byte. -/
theorem value_bitsOfByte (byte : UInt8) : value (bitsOfByte byte) = byte.toNat := by
  rw [bitsOfByte, value_low_bits byte.toNat 8]
  exact Nat.mod_eq_of_lt byte.toNat_lt

/-- A byte has eight bits. -/
theorem length_bitsOfByte (byte : UInt8) : (bitsOfByte byte).length = 8 := by
  rw [bitsOfByte, List.length_map, List.length_range]

/-- A byte sequence has eight bits a byte. -/
theorem length_bits (bytes : List UInt8) : (bits bytes).length = 8 * bytes.length := by
  induction bytes with
  | nil => rfl
  | cons byte rest inductionHypothesis =>
    rw [bits, List.flatMap_cons, List.length_append, length_bitsOfByte, List.length_cons]
    rw [bits] at inductionHypothesis
    omega

/-! ## Symbols of a stream -/

/-- The first symbols of a stream are those of a longer one. -/
theorem symbolsOf_append (more : List Bool) (within : 5 * count ≤ stream.length) :
    symbolsOf (stream ++ more) count = symbolsOf stream count := by
  refine List.map_congr_left fun place member => ?_
  rw [List.mem_range] at member
  have inside : 5 ≤ (stream.drop (5 * place)).length := by
    rw [List.length_drop]
    omega
  rw [window, List.drop_append_of_le_length (by omega), List.take_append_of_le_length inside,
    window]

/-- A symbol more takes the next five bits. -/
theorem symbolsOf_succ (stream : List Bool) (count : Nat) : symbolsOf stream (count + 1) =
    symbolsOf stream count ++ [symbol (value (window stream count))] := by
  rw [symbolsOf, List.range_succ, List.map_append]
  rfl

/-- What is left of a stream is the next five bits and what is left behind them. -/
theorem value_drop (total : stream.length = 5 * count + (below + 5)) :
    value (stream.drop (5 * count)) =
      value (window stream count) * 2 ^ below + value (stream.drop (5 * (count + 1))) := by
  have split : stream.drop (5 * count) = window stream count ++ stream.drop (5 * (count + 1)) := by
    rw [window, Nat.mul_succ, ← List.drop_drop, List.take_append_drop]
  have left : (stream.drop (5 * (count + 1))).length = below := by
    rw [List.length_drop]
    omega
  rw [split, value_append, left]

/-- As many symbols are there as are asked for. -/
theorem length_symbolsOf (stream : List Bool) (count : Nat) :
    (symbolsOf stream count).length = count := by
  rw [symbolsOf, List.length_map, List.length_range]

/-- Fewer symbols are the beginning of more. -/
theorem symbolsOf_prefix {fewer : Nat} (stream : List Bool) (less : fewer ≤ count) :
    symbolsOf stream fewer <+: symbolsOf stream count := by
  induction count, less using Nat.le_induction with
  | base => exact List.prefix_rfl
  | succ count _ inductionHypothesis =>
    rw [symbolsOf_succ]
    exact inductionHypothesis.trans (List.prefix_append _ _)

/-! ## The buffer -/

/-- A group is five binary digits of the buffer. -/
theorem group_eq (buffer : UInt16) (few : below < 16) :
    group buffer below = buffer.toNat / 2 ^ below % 32 := by
  have amount : below.toUInt16.toNat % 16 = below := by
    rw [Nat.toUInt16, UInt16.toNat_ofNat']
    omega
  rw [group, UInt16.toNat_and, UInt16.toNat_shiftRight, amount, Nat.shiftRight_eq_div_pow]
  exact Nat.and_two_pow_sub_one_eq_mod _ 5

/-- The digits of a group are those above the ones that stay below it. -/
theorem group_of_mod {high low : Nat} (few : below < 16) (small : low < 2 ^ below)
    (pending : buffer.toNat % 2 ^ (below + 5) = high * 2 ^ below + low) :
    group buffer below = high ∧ buffer.toNat % 2 ^ below = low := by
  rw [Nat.pow_add] at pending
  constructor
  · rw [group_eq buffer few, ← Nat.mod_mul_right_div_self]
    show buffer.toNat % (2 ^ below * 2 ^ 5) / 2 ^ below = high
    rw [pending, Nat.mul_comm, Nat.mul_add_div (Nat.two_pow_pos below), Nat.div_eq_of_lt small,
      Nat.add_zero]
  · rw [← Nat.mod_mul_right_mod _ _ (2 ^ 5), pending, Nat.mul_comm, Nat.mul_add_mod,
      Nat.mod_eq_of_lt small]

/-- Clearing leaves the low digits of the buffer. -/
theorem toNat_mask (few : writer.width < 16) :
    writer.mask.buffer.toNat = writer.buffer.toNat % 2 ^ writer.width := by
  have amount : writer.width.toUInt16.toNat % 16 = writer.width := by
    rw [Nat.toUInt16, UInt16.toNat_ofNat']
    omega
  have room : 2 ^ writer.width < 2 ^ 16 := Nat.pow_lt_pow_right (by decide) few
  have power : (1 <<< writer.width.toUInt16 : UInt16).toNat = 2 ^ writer.width := by
    rw [UInt16.toNat_shiftLeft, amount, Nat.shiftLeft_eq]
    simpa using Nat.mod_eq_of_lt room
  have positive : (1 : UInt16) ≤ 1 <<< writer.width.toUInt16 := by
    rw [UInt16.le_iff_toNat_le, power]
    exact Nat.one_le_two_pow
  rw [Writer.mask, UInt16.toNat_and, UInt16.toNat_sub_of_le _ _ positive, power]
  exact Nat.and_two_pow_sub_one_eq_mod _ _

/-- No bit of a buffer that has less than a byte is shifted out, and the byte stands below. -/
theorem toNat_shift (few : writer.buffer.toNat < 2 ^ 8) (byte : UInt8) :
    (writer.shift byte).buffer.toNat = writer.buffer.toNat * 2 ^ 8 + byte.toNat := by
  have room : writer.buffer.toNat <<< 8 < 2 ^ 16 := by
    rw [Nat.shiftLeft_eq]
    omega
  rw [Writer.shift, UInt16.toNat_or, UInt16.toNat_shiftLeft, UInt8.toNat_toUInt16]
  show writer.buffer.toNat <<< 8 % 2 ^ 16 ||| byte.toNat = _
  rw [Nat.mod_eq_of_lt room, ← Nat.shiftLeft_add_eq_or_of_lt byte.toNat_lt, Nat.shiftLeft_eq]

/-! ## Writing -/

/-- A writer has taken the bits of a stream in order: its symbols are the first ones of the stream,
and the low bits of its buffer are the bits behind them. -/
structure Writer.Follows (writer : Writer) (stream : List Bool) : Prop where
  counted : stream.length = 5 * writer.symbols.length + writer.width
  symbols : writer.symbols = symbolsOf stream writer.symbols.length
  pending : writer.buffer.toNat % 2 ^ writer.width = value (stream.drop (5 * writer.symbols.length))

/-- Between bytes the buffer has no bits but the pending ones, which fill no symbol, and the text is
not finished. -/
structure Writer.Rests (length : Nat) (writer : Writer) (stream : List Bool) : Prop
    extends Writer.Follows writer stream where
  narrow : writer.width < 5
  clear : writer.buffer.toNat < 2 ^ writer.width
  unfinished : writer.symbols.length < length

/-- Nothing has been read before the first byte. -/
theorem Writer.rests_empty (positive : 0 < length) : Writer.empty.Rests length [] where
  counted := rfl
  symbols := rfl
  pending := rfl
  narrow := by decide
  clear := by decide
  unfinished := positive

/-- The next symbol is that of the five bits that follow. -/
theorem Writer.Follows.write (follows : Writer.Follows ⟨symbols, buffer, below + 5⟩ stream)
    (few : below < 16) :
    Writer.Follows ⟨symbols ++ [symbol (group buffer below)], buffer, below⟩ stream := by
  obtain ⟨total, written, pending⟩ := follows
  dsimp only at total written pending
  have rest := value_lt (stream.drop (5 * (symbols.length + 1)))
  have left : (stream.drop (5 * (symbols.length + 1))).length = below := by
    rw [List.length_drop]
    omega
  rw [left] at rest
  obtain ⟨taken, remains⟩ := group_of_mod few rest (pending.trans (value_drop total))
  refine ⟨?_, ?_, ?_⟩ <;> dsimp only <;> rw [List.length_append, List.length_singleton]
  · omega
  · rw [symbolsOf_succ, ← written, taken]
  · exact remains

/-- When a buffer has been emptied of groups, fewer than five bits are left and the text is not
finished. A text that was finished has the length asked for. -/
theorem fill_follows (follows : Writer.Follows ⟨symbols, buffer, width⟩ stream) (few : width < 21)
    (unfinished : symbols.length < length) :
    (∀ filled, fill length symbols buffer width = .ok filled →
      filled.Follows stream ∧ filled.width < 5 ∧ filled.symbols.length < length) ∧
    ∀ text, fill length symbols buffer width = .error text →
      text = symbolsOf stream length ∧ 5 * length ≤ stream.length := by
  fun_induction fill length symbols buffer width with
  | case1 symbols below longer full =>
    have written := follows.write (by omega)
    refine ⟨nofun, ?_⟩
    rintro _ ⟨⟩
    rw [← full]
    refine ⟨written.symbols, ?_⟩
    rw [written.counted]
    exact Nat.le_add_right _ _
  | case2 symbols below longer short inductionHypothesis =>
    refine inductionHypothesis (follows.write (by omega)) (by omega) ?_
    rw [List.length_append, List.length_singleton] at short ⊢
    omega
  | case3 symbols width narrow =>
    refine ⟨?_, nofun⟩
    rintro _ ⟨⟩
    refine ⟨follows, ?_, unfinished⟩
    refine Nat.lt_of_not_le fun enough => narrow (width - 5) ?_
    dsimp only at enough
    omega

/-- A byte comes in behind the pending bits. They have room in the buffer together with its bits, so
that none is lost. -/
theorem Writer.Rests.shift (rests : writer.Rests length stream) (byte : UInt8) :
    (writer.shift byte).Follows (stream ++ bitsOfByte byte) ∧
      (writer.shift byte).buffer.toNat =
        value ((stream ++ bitsOfByte byte).drop (5 * writer.symbols.length)) := by
  have within : 5 * writer.symbols.length ≤ stream.length := by
    rw [rests.counted]
    exact Nat.le_add_right _ _
  have small : writer.buffer.toNat < 2 ^ 8 :=
    Nat.lt_trans rests.clear (Nat.pow_lt_pow_right (by decide) (by have := rests.narrow; omega))
  have held : (writer.shift byte).buffer.toNat =
      value ((stream ++ bitsOfByte byte).drop (5 * writer.symbols.length)) := by
    rw [toNat_shift small, List.drop_append_of_le_length within, value_append, value_bitsOfByte,
      length_bitsOfByte, ← rests.pending, Nat.mod_eq_of_lt rests.clear]
  refine ⟨⟨?_, ?_, ?_⟩, held⟩
  · rw [List.length_append, length_bitsOfByte, rests.counted]
    exact Nat.add_assoc _ _ _
  · show writer.symbols = symbolsOf (stream ++ bitsOfByte byte) writer.symbols.length
    rw [symbolsOf_append _ within]
    exact rests.symbols
  · have bound := value_lt ((stream ++ bitsOfByte byte).drop (5 * writer.symbols.length))
    rw [held]
    refine Nat.mod_eq_of_lt ?_
    refine Nat.lt_of_lt_of_eq bound (congrArg _ ?_)
    rw [List.length_drop, List.length_append, length_bitsOfByte, rests.counted]
    show _ = writer.width + 8
    omega

/-- Clearing the bits that were taken keeps the pending ones. -/
theorem Writer.Follows.rests_mask (follows : writer.Follows stream) (narrow : writer.width < 5)
    (unfinished : writer.symbols.length < length) : writer.mask.Rests length stream := by
  have low : writer.mask.buffer.toNat = writer.buffer.toNat % 2 ^ writer.width :=
    toNat_mask (by omega)
  refine ⟨⟨follows.counted, follows.symbols, ?_⟩, narrow, ?_, unfinished⟩
  · show writer.mask.buffer.toNat % 2 ^ writer.width = _
    rw [low, Nat.mod_mod]
    exact follows.pending
  · show writer.mask.buffer.toNat < 2 ^ writer.width
    rw [low]
    exact Nat.mod_lt _ (Nat.two_pow_pos _)

/-- One byte: either the text goes on, with the byte read, or it is finished. -/
theorem Writer.Rests.read (rests : writer.Rests length stream) (byte : UInt8) :
    (∀ next, writer.read length byte = .ok next → next.Rests length (stream ++ bitsOfByte byte)) ∧
    ∀ text, writer.read length byte = .error text →
      text = symbolsOf (stream ++ bitsOfByte byte) length ∧
        5 * length ≤ (stream ++ bitsOfByte byte).length := by
  have room : (writer.shift byte).width < 21 := by
    have narrow := rests.narrow
    show writer.width + 8 < 21
    omega
  obtain ⟨goesOn, ends⟩ := fill_follows (rests.shift byte).1 room rests.unfinished
  have unfolded : writer.read length byte =
      (fill length (writer.shift byte).symbols (writer.shift byte).buffer
        (writer.shift byte).width).bind fun filled => .ok filled.mask := rfl
  rw [unfolded]
  cases filled : fill length (writer.shift byte).symbols (writer.shift byte).buffer
      (writer.shift byte).width with
  | ok next =>
    obtain ⟨follows, narrow, unfinished⟩ := goesOn next filled
    refine ⟨?_, nofun⟩
    rintro _ ⟨⟩
    exact follows.rests_mask narrow unfinished
  | error text =>
    refine ⟨nofun, ?_⟩
    rintro _ ⟨⟩
    exact ends text filled

/-- Any number of bytes: either the text goes on, with all of them read, or it is finished with the
first symbols of the stream. -/
theorem Writer.Rests.readAll (rests : writer.Rests length stream) (bytes : List UInt8) :
    (∀ next, bytes.foldlM (Writer.read length) writer = .ok next →
      next.Rests length (stream ++ bits bytes)) ∧
    ∀ text, bytes.foldlM (Writer.read length) writer = .error text →
      text = symbolsOf (stream ++ bits bytes) length ∧
        5 * length ≤ (stream ++ bits bytes).length := by
  induction bytes generalizing writer stream with
  | nil =>
    refine ⟨?_, nofun⟩
    rintro _ ⟨⟩
    rwa [bits, List.flatMap_nil, List.append_nil]
  | cons byte rest inductionHypothesis =>
    obtain ⟨goesOn, ends⟩ := rests.read byte
    rw [List.foldlM_cons, bits, List.flatMap_cons, ← List.append_assoc]
    cases first : writer.read length byte with
    | ok next => exact inductionHypothesis (goesOn next first)
    | error text =>
      refine ⟨nofun, ?_⟩
      rintro _ ⟨⟩
      obtain ⟨written, enough⟩ := ends text first
      rw [symbolsOf_append _ enough, List.length_append]
      exact ⟨written, by omega⟩

/-- A byte sequence is written by the first symbols of its stream: as many as were asked for, or as
many as its bits fill. -/
theorem encode_eq (positive : 0 < length) (bytes : List UInt8) :
    encode length bytes = symbolsOf (bits bytes) (min length (8 * bytes.length / 5)) := by
  obtain ⟨goesOn, ends⟩ := (Writer.rests_empty positive).readAll bytes
  rw [List.nil_append, length_bits] at ends
  rw [List.nil_append] at goesOn
  rw [encode]
  split
  case h_1 text finished =>
    obtain ⟨written, enough⟩ := ends text finished
    rw [written, Nat.min_eq_left (by omega)]
  case h_2 writer unfinished =>
    have rests := goesOn writer unfinished
    have counted := rests.counted
    have narrow := rests.narrow
    have short := rests.unfinished
    rw [length_bits] at counted
    rw [Nat.min_eq_right (by omega)]
    have filled : 8 * bytes.length / 5 = writer.symbols.length := by omega
    rw [filled]
    exact rests.symbols

end Syndication.Base32
