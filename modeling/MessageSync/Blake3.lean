import MessageSync.Hex

/-!
# The BLAKE3 hash function

The unkeyed hash with its default output of 32 bytes. The input is cut into chunks
of 1024 bytes and each chunk into blocks of 64. A chunk is hashed by compressing its
blocks in turn; the chaining values of the chunks are the leaves of a binary tree
whose inner nodes compress two children. The last compression of all carries the
root flag.

The sixteen words of a state are kept as four rows of four lanes, so that a round is
one column step and one diagonal step on whole rows.
-/

namespace MessageSync.Blake3

/-! ## Rows of four words -/

/-- Four lanes of a state. -/
structure Row where
  a : UInt32
  b : UInt32
  c : UInt32
  d : UInt32
deriving DecidableEq

/-- Lane by lane sum modulo 2^32. -/
@[inline] def Row.add (x y : Row) : Row :=
  ⟨x.a + y.a, x.b + y.b, x.c + y.c, x.d + y.d⟩

/-- Lane by lane exclusive or. -/
@[inline] def Row.xor (x y : Row) : Row :=
  ⟨x.a ^^^ y.a, x.b ^^^ y.b, x.c ^^^ y.c, x.d ^^^ y.d⟩

/-- Rotates one word to the right. -/
@[inline] def rotateRight (w n : UInt32) : UInt32 :=
  (w >>> n) ||| (w <<< (32 - n))

/-- Rotates every lane to the right by `n` bits. -/
@[inline] def Row.rotate (x : Row) (n : UInt32) : Row :=
  ⟨rotateRight x.a n, rotateRight x.b n, rotateRight x.c n, rotateRight x.d n⟩

/-- The lanes one place to the left, the first becoming the last. -/
@[inline] def Row.shift1 (x : Row) : Row := ⟨x.b, x.c, x.d, x.a⟩

/-- The lanes two places to the left. -/
@[inline] def Row.shift2 (x : Row) : Row := ⟨x.c, x.d, x.a, x.b⟩

/-- The lanes three places to the left. -/
@[inline] def Row.shift3 (x : Row) : Row := ⟨x.d, x.a, x.b, x.c⟩

/-- The words of a row in order. -/
def Row.words (x : Row) : List UInt32 := [x.a, x.b, x.c, x.d]

/-! ## Compression -/

/-- A state of sixteen words. -/
structure State where
  r0 : Row
  r1 : Row
  r2 : Row
  r3 : Row

/-- A block of sixteen message words, four to a row. -/
structure Block where
  m0 : Row
  m1 : Row
  m2 : Row
  m3 : Row

/-- A chaining value of eight words. -/
structure Chain where
  low : Row
  high : Row
deriving DecidableEq

/-- The mixing function on the four columns at once, with two message words a column. -/
@[inline] def State.mix (s : State) (x y : Row) : State :=
  let r0 := (s.r0.add s.r1).add x
  let r3 := (s.r3.xor r0).rotate 16
  let r2 := s.r2.add r3
  let r1 := (s.r1.xor r2).rotate 12
  let r0 := (r0.add r1).add y
  let r3 := (r3.xor r0).rotate 8
  let r2 := r2.add r3
  let r1 := (r1.xor r2).rotate 7
  ⟨r0, r1, r2, r3⟩

/-- One round: the columns, then the diagonals, which are the columns after the lower
rows are shifted. -/
def State.round (s : State) (m : Block) : State :=
  let s := s.mix ⟨m.m0.a, m.m0.c, m.m1.a, m.m1.c⟩ ⟨m.m0.b, m.m0.d, m.m1.b, m.m1.d⟩
  -- now each diagonal stands in one lane
  let s : State := ⟨s.r0, s.r1.shift1, s.r2.shift2, s.r3.shift3⟩
  let s := s.mix ⟨m.m2.a, m.m2.c, m.m3.a, m.m3.c⟩ ⟨m.m2.b, m.m2.d, m.m3.b, m.m3.d⟩
  ⟨s.r0, s.r1.shift3, s.r2.shift2, s.r3.shift1⟩

/-- The fixed rearrangement of the message words between two rounds. -/
def Block.permute (m : Block) : Block :=
  ⟨⟨m.m0.c, m.m1.c, m.m0.d, m.m2.c⟩, ⟨m.m1.d, m.m0.a, m.m1.a, m.m3.b⟩,
   ⟨m.m0.b, m.m2.d, m.m3.a, m.m1.b⟩, ⟨m.m2.b, m.m3.c, m.m3.d, m.m2.a⟩⟩

/-- `n` rounds, the message words being rearranged after each. -/
def State.rounds : Nat → State → Block → State
  | 0, s, _ => s
  | n + 1, s, m => State.rounds n (s.round m) m.permute

/-- The initial chaining value. -/
def initialChain : Chain :=
  ⟨⟨0x6A09E667, 0xBB67AE85, 0x3C6EF372, 0xA54FF53A⟩,
   ⟨0x510E527F, 0x9B05688C, 0x1F83D9AB, 0x5BE0CD19⟩⟩

/-- Compresses one block: seven rounds, then the two halves of the state are joined. -/
def compress (chain : Chain) (block : Block) (counter : UInt64) (size flags : UInt32) : Chain :=
  let s := State.rounds 7
    ⟨chain.low, chain.high, initialChain.low,
      ⟨counter.toUInt32, (counter >>> 32).toUInt32, size, flags⟩⟩ block
  ⟨s.r0.xor s.r2, s.r1.xor s.r3⟩

/-- The flag of the first block of a chunk. -/
def chunkStart : UInt32 := 1

/-- The flag of the last block of a chunk. -/
def chunkEnd : UInt32 := 2

/-- The flag of an inner node of the tree. -/
def parentNode : UInt32 := 4

/-- The flag of the last compression. -/
def rootNode : UInt32 := 8

/-! ## Bytes and words -/

/-- The word of four bytes, the least significant first. -/
def word (b0 b1 b2 b3 : UInt8) : UInt32 :=
  b0.toUInt32 ||| (b1.toUInt32 <<< 8) ||| (b2.toUInt32 <<< 16) ||| (b3.toUInt32 <<< 24)

/-- The four bytes of a word, the least significant first. -/
def wordBytes (w : UInt32) : Bytes :=
  [w.toUInt8, (w >>> 8).toUInt8, (w >>> 16).toUInt8, (w >>> 24).toUInt8]

/-- The row of the first sixteen bytes; missing bytes count as zero. -/
def rowOf : Bytes → Row
  -- nearly all rows are full: these are read without counting
  | a0 :: a1 :: a2 :: a3 :: b0 :: b1 :: b2 :: b3 ::
    c0 :: c1 :: c2 :: c3 :: d0 :: d1 :: d2 :: d3 :: _ =>
    ⟨word a0 a1 a2 a3, word b0 b1 b2 b3, word c0 c1 c2 c3, word d0 d1 d2 d3⟩
  | short =>
    let wordAt (i : Nat) : UInt32 :=
      word (short.getD i 0) (short.getD (i + 1) 0) (short.getD (i + 2) 0) (short.getD (i + 3) 0)
    ⟨wordAt 0, wordAt 4, wordAt 8, wordAt 12⟩

/-- The block of at most 64 bytes, filled up with zeros. -/
def blockOf (bytes : Bytes) : Block :=
  ⟨rowOf bytes, rowOf (bytes.drop 16), rowOf (bytes.drop 32), rowOf (bytes.drop 48)⟩

/-- The block of an inner node: its two children side by side. -/
def pairBlock (left right : Chain) : Block :=
  ⟨left.low, left.high, right.low, right.high⟩

/-- The 32 bytes of a chaining value. -/
def Chain.toBytes (c : Chain) : Bytes :=
  (c.low.words ++ c.high.words).flatMap wordBytes

theorem Chain.length_toBytes (c : Chain) : c.toBytes.length = 32 := rfl

/-! ## Chunks -/

/-- Cuts a list into pieces of `size` elements; the last may be shorter. The first
argument bounds the number of pieces. -/
def pieces {α : Type} (size : Nat) : Nat → List α → List (List α)
  | 0, _ => []
  | _ + 1, [] => []
  | n + 1, x :: xs => (x :: xs).take size :: pieces size n ((x :: xs).drop size)

theorem length_pieces_le {α : Type} (size n : Nat) (xs : List α) :
    (pieces size n xs).length ≤ n := by
  induction n generalizing xs with
  | zero => exact Nat.le_refl 0
  | succ n ih =>
    cases xs with
    | nil => exact Nat.zero_le _
    | cons x xs => exact Nat.succ_le_succ (ih _)

/-- The bound on the pieces does not matter, once they may have all elements. -/
theorem pieces_eq_of_le {α : Type} {size n n' : Nat} {xs : List α}
    (h : xs.length ≤ n * size) (h' : xs.length ≤ n' * size) :
    pieces size n xs = pieces size n' xs := by
  induction n generalizing xs n' with
  | zero =>
    obtain rfl : xs = [] := List.length_eq_zero_iff.mp (by omega)
    cases n' <;> rfl
  | succ n ih =>
    cases xs with
    | nil => cases n' <;> rfl
    | cons x xs =>
      cases n' with
      | zero => simp at h'
      | succ n' =>
        have hrest : ((x :: xs).drop size).length ≤ n * size ∧
            ((x :: xs).drop size).length ≤ n' * size := by
          rw [Nat.succ_mul] at h h'
          rw [List.length_drop]
          omega
        rw [pieces, pieces, ih hrest.1 hrest.2]

/-- Compresses the blocks of a chunk in turn. Only the first carries the start flag;
the last carries the end flag and `final`. -/
def chunkBlocks (counter : UInt64) (final : UInt32) : UInt32 → Chain → List Bytes → Chain
  | _, chain, [] => chain
  | start, chain, [block] =>
    compress chain (blockOf block) counter (UInt32.ofNat block.length)
      (start ||| chunkEnd ||| final)
  | start, chain, block :: rest =>
    chunkBlocks counter final 0
      (compress chain (blockOf block) counter 64 start) rest

/-- The chaining value of a chunk. A chunk without bytes is one empty block. -/
def chunk (counter : Nat) (final : UInt32) (bytes : Bytes) : Chain :=
  let blocks := match pieces 64 16 bytes with
    | [] => [[]]
    | full => full
  chunkBlocks (UInt64.ofNat counter) final chunkStart initialChain blocks

/-! ## The tree -/

/-- Two children under an inner node. -/
def parent (final : UInt32) (left right : Chain) : Chain :=
  compress initialChain (pairBlock left right) 0 64 (parentNode ||| final)

/-- One level up: neighbours are joined, and an odd last one moves up as it is. -/
def level : List Chain → List Chain
  | left :: right :: rest => parent 0 left right :: level rest
  | short => short

theorem length_level (nodes : List Chain) : (level nodes).length = (nodes.length + 1) / 2 := by
  induction nodes using level.induct with
  | case1 left right rest ih =>
    simp only [level, List.length_cons, ih]
    omega
  | case2 short hshort =>
    rcases short with _ | ⟨a, _ | ⟨b, rest⟩⟩
    · simp [level]
    · simp [level]
    · exact (hshort a b rest rfl).elim

/-- Joins the leaves of a tree of at least two to its root, climbing at most `height` levels. -/
def root : Nat → List Chain → Chain
  | _, [left, right] => parent rootNode left right
  | height + 1, nodes => root height (level nodes)
  -- not reached from `hashChain`, as each level halves the number of nodes
  | 0, _ => initialChain

/-- The bound on the levels does not matter, once it is as large as the number of leaves. -/
theorem root_eq_of_le {nodes : List Chain} (htwo : 2 ≤ nodes.length) {height height' : Nat}
    (h : nodes.length ≤ height) (h' : nodes.length ≤ height') :
    root height nodes = root height' nodes := by
  induction height generalizing nodes height' with
  | zero => omega
  | succ height ih =>
    obtain ⟨height', rfl⟩ : ∃ n, height' = n + 1 := ⟨height' - 1, by omega⟩
    rcases nodes with _ | ⟨a, _ | ⟨b, _ | ⟨c, rest⟩⟩⟩
    · cases htwo
    · cases htwo with | step h => cases h
    · rw [root, root]
    · have hlevel := length_level (a :: b :: c :: rest)
      simp only [List.length_cons] at h h' hlevel
      rw [root, root]
      · exact ih (by omega) (by omega) (by omega)
      all_goals exact fun _ _ => nofun

/-- The hash of a byte string as a chaining value. -/
def hashChain (input : Bytes) : Chain :=
  match pieces 1024 (input.length / 1024 + 1) input with
  | [] => chunk 0 rootNode []
  | [single] => chunk 0 rootNode single
  | several => root several.length (several.mapIdx fun i c => chunk i 0 c)

/-- The hash is the same whatever the bounds on the pieces and on the levels are, as long as they
leave room for all of the input. -/
theorem hashChain_eq {input : Bytes} {n height : Nat} (hn : input.length ≤ n * 1024)
    (hheight : n ≤ height) :
    hashChain input =
      match pieces 1024 n input with
      | [] => chunk 0 rootNode []
      | [single] => chunk 0 rootNode single
      | several => root height (several.mapIdx fun i c => chunk i 0 c) := by
  have hroom : input.length ≤ (input.length / 1024 + 1) * 1024 := by
    rw [Nat.mul_comm]
    exact Nat.le_of_lt (Nat.lt_mul_div_succ input.length (by decide))
  have hpieces : pieces 1024 (input.length / 1024 + 1) input = pieces 1024 n input :=
    pieces_eq_of_le hroom hn
  have hlength := length_pieces_le 1024 n input
  rw [hashChain, hpieces]
  generalize pieces 1024 n input = parts at hlength
  rcases parts with _ | ⟨a, _ | ⟨b, rest⟩⟩
  · rfl
  · rfl
  · have hleaves : ((a :: b :: rest).mapIdx fun i c => chunk i 0 c).length =
        (a :: b :: rest).length := List.length_mapIdx
    refine root_eq_of_le ?_ (Nat.le_of_eq hleaves) ?_
    · exact Nat.le_trans (Nat.le_add_left 2 rest.length) (Nat.le_of_eq hleaves.symm)
    · exact Nat.le_trans (Nat.le_of_eq hleaves) (Nat.le_trans hlength hheight)

/-- The 32 byte hash of a byte string. -/
def hash (input : Bytes) : Bytes :=
  (hashChain input).toBytes

theorem length_hash (input : Bytes) : (hash input).length = 32 :=
  (hashChain input).length_toBytes

end MessageSync.Blake3
