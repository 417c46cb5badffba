import Brainfuck.Program.Storage
import Brainfuck.Proofs.Program.Filtering
import Mathlib.Algebra.Ring.Int.Defs
import Mathlib.Algebra.Ring.Nat

namespace Brainfuck

/-!
# Growing storage

A storage keeps the commands of every chunk whose call returns, in the order of the
calls, and its capacity is the first one by doubling that is large enough.  A call
that fails for want of cells leaves the storage as it was, so that calls that fail
are as good as calls that were never made.
-/

namespace Buffer

/-- Whether a capacity is the first of `start`, `2 * start`, `4 * start`, … that is large enough. -/
def IsFirstDoubling
    (start : Nat)
    (needed : Nat)
    (capacity : Nat) :
    Prop :=
  ∃ doublings, capacity = start * 2 ^ doublings ∧ needed ≤ capacity ∧
    ∀ fewer, fewer < doublings → start * 2 ^ fewer < needed

theorem mul_two_pow_succ (capacity count : Nat) :
    capacity * 2 ^ (count + 1) = 2 * capacity * 2 ^ count := by
  rw [Nat.pow_succ, Nat.mul_comm (2 ^ count) 2, ← Nat.mul_assoc, Nat.mul_comm capacity 2]

/-- Doubling stops at the first capacity that is large enough. -/
theorem isFirstDoubling_doubled
    (capacity : Nat)
    (needed : Nat)
    (capacity_pos : 0 < capacity) :
    IsFirstDoubling capacity needed (doubled capacity needed capacity_pos) := by
  fun_induction doubled capacity needed capacity_pos with
  | case1 capacity capacity_pos fits =>
      refine ⟨0, by simp, fits, ?_⟩
      intro fewer none
      cases none
  | case2 capacity capacity_pos tight inductionHypothesis =>
      obtain ⟨doublings, same, enough, first⟩ := inductionHypothesis
      refine ⟨doublings + 1, same.trans (mul_two_pow_succ _ _).symm, enough, ?_⟩
      intro fewer less
      cases fewer with
      | zero =>
          omega
      | succ fewer =>
          rw [mul_two_pow_succ]
          exact first fewer (Nat.lt_of_succ_lt_succ less)

/-- A capacity may be doubled further when more is needed. -/
theorem IsFirstDoubling.trans
    {start needed capacity more larger : Nat}
    (first : IsFirstDoubling start needed capacity)
    (rises : needed ≤ more)
    (further : IsFirstDoubling capacity more larger) :
    IsFirstDoubling start more larger := by
  obtain ⟨doublings, rfl, _, before⟩ := first
  obtain ⟨others, rfl, enough, between⟩ := further
  refine ⟨doublings + others, by rw [Nat.pow_add, Nat.mul_assoc], enough, ?_⟩
  intro fewer less
  -- Fewer doublings fall short of the first need, or else of the one that comes later.
  by_cases early : fewer < doublings
  · exact Nat.lt_of_lt_of_le (before fewer early) rises
  · obtain ⟨rest, rfl⟩ := Nat.exists_eq_add_of_le (Nat.le_of_not_lt early)
    rw [Nat.pow_add, ← Nat.mul_assoc]
    exact between rest (by omega)

end Buffer

namespace Storage

/-- A chunk to keep, and what an allocation yields meanwhile. -/
structure Request where
  chunk : List UInt8
  allocate : Allocator

/-- The answers to requests in order, and the storage they leave. -/
def extendAll : List Request → Storage → List (Outcome Nat) × Storage
  | [], storage => ([], storage)
  | request :: rest, storage =>
      match extend request.chunk request.allocate storage with
      | .ok kept next => ((.ok kept :: (extendAll rest next).1), (extendAll rest next).2)
      | .error failure left =>
          ((.error failure :: (extendAll rest left).1), (extendAll rest left).2)

/-- The buffer that a request leaves. -/
def Request.bufferBehind
    (request : Request)
    (buffer : Buffer) :
    Buffer :=
  match buffer.extend request.chunk fun count => (request.allocate count).isSome with
  | .ok (longer, _) => longer
  | .error _ => buffer

/-- The buffer that requests leave. -/
def bufferAfter
    (requests : List Request)
    (buffer : Buffer) :
    Buffer :=
  requests.foldl (fun current request => request.bufferBehind current) buffer

/-- The bytes of the chunks whose requests were answered by a count. -/
def returnedBytes
    (requests : List Request)
    (answers : List (Outcome Nat)) :
    List UInt8 :=
  ((requests.zip answers).filter fun call => call.2.isOk).flatMap fun call => call.1.chunk

/-- The sum of the counts among some answers. -/
def total (answers : List (Outcome Nat)) : Nat :=
  (answers.filterMap Except.toOption).sum

/-- The length of a storage that keeps a chunk as well. -/
def lengthWith
    (storage : Storage)
    (chunk : List UInt8) :
    Nat :=
  storage.length + (Buffer.commands chunk).length

/-- The capacity of a storage that keeps a chunk as well. -/
def capacityWith
    (storage : Storage)
    (chunk : List UInt8) :
    Nat :=
  Buffer.doubled storage.capacity (storage.lengthWith chunk) storage.capacity_pos

/-- Whether a storage keeps what a buffer keeps, in as many cells. -/
structure Holds
    (storage : Storage)
    (buffer : Buffer) :
    Prop where
  words : storage.words = buffer.contents.toList.map Opcode.word
  length : storage.length = buffer.size
  capacity : storage.capacity = buffer.capacity
  within : storage.length ≤ storage.capacity

/-- Whether a storage keeps the commands of a chunk behind those of another one. -/
structure Gains
    (storage : Storage)
    (chunk : List UInt8)
    (next : Storage) :
    Prop where
  words : next.words = storage.words ++ (Buffer.commands chunk).map Opcode.word
  length : next.length = storage.lengthWith chunk
  capacity : next.capacity = storage.capacityWith chunk

/-- What requests to a storage of a requested capacity have made of it. -/
structure KeepsReturned
    (requested : Int)
    (requests : List Request)
    (answers : List (Outcome Nat))
    (storage : Storage) :
    Prop where
  /-- There is an answer to each request. -/
  answered : answers.length = requests.length
  /-- No more cells are in use than there are. -/
  within : storage.length ≤ storage.capacity
  /-- The capacity is the first by doubling that is large enough. -/
  capacity : ∃ doublings, (storage.capacity : Int) = max 1 requested * 2 ^ doublings ∧
    ∀ fewer, fewer < doublings → max 1 requested * 2 ^ fewer < (storage.length : Int)
  /-- The program is made of the commands of the chunks whose requests were answered by a count. -/
  contents : storage.freeze.numbers =
    ((returnedBytes requests answers).filter fun byte => Opcode.bytes.contains byte).map
      fun byte => (byte.toNat : Int)
  /-- The counts add up to the length. -/
  counts : total answers = storage.length
  /-- Doubling stops, at the first capacity that is large enough. -/
  doubles : ∀ needed,
    Buffer.IsFirstDoubling storage.capacity needed
      (Buffer.doubled storage.capacity needed storage.capacity_pos)
  /-- A further request that is answered by a count has the commands of its chunk kept. -/
  returning : ∀ chunk allocate kept next,
    extend chunk allocate storage = .ok kept next →
      kept = (Buffer.commands chunk).length ∧ storage.Gains chunk next
  /-- A chunk that fits is kept in the same cells, whatever an allocation would yield. -/
  fitting : ∀ chunk allocate,
    storage.lengthWith chunk ≤ storage.capacity →
      ∃ kept next, extend chunk allocate storage = .ok kept next ∧
        next.capacity = storage.capacity
  /-- A request fails when a chunk does not fit and more cells are refused, and changes nothing. -/
  failing : ∀ chunk allocate failure left,
    extend chunk allocate storage = .error failure left ↔
      storage.capacity < storage.lengthWith chunk ∧
        allocate (storage.capacityWith chunk) = none ∧
        failure = .bufferTooLarge (storage.capacityWith chunk) ∧
        left = storage
  /-- A buffer of the same capacity keeps the same commands at the same requests. -/
  buffer : ∃ empty, Buffer.create requested alwaysGranted = .ok empty ∧
    storage.Holds (bufferAfter requests empty)

variable
  {storage next : Storage}
  {chunk : List UInt8}
  {allocate : Allocator}
  {buffer : Buffer}

/-! ## Writing cells -/

theorem take_setIfInBounds_succ
    {cells : Array Int32}
    {start : Nat}
    (inside : start < cells.size)
    (word : Int32) :
    (cells.setIfInBounds start word).toList.take (start + 1) =
      cells.toList.take start ++ [word] := by
  have stays : start < (cells.toList.set start word).length := by
    rw [List.length_set, Array.length_toList]
    exact inside
  rw [Array.toList_setIfInBounds, List.take_succ_eq_append_getElem stays,
    List.getElem_set_self, List.take_set_of_le (Nat.le_refl start)]

/-- Words that are written stand behind what was in front of them. -/
theorem take_overwrite
    {cells : Array Int32}
    {start : Nat}
    {words : List Int32}
    (room : start + words.length ≤ cells.size) :
    (overwrite cells start words).toList.take (start + words.length) =
      cells.toList.take start ++ words := by
  induction words generalizing cells start with
  | nil =>
      rw [overwrite, List.length_nil, Nat.add_zero, List.append_nil]
  | cons word rest inductionHypothesis =>
      rw [List.length_cons] at room
      have roomBehind : start + 1 + rest.length ≤ (cells.setIfInBounds start word).size := by
        rw [Array.size_setIfInBounds]
        omega
      have later := inductionHypothesis roomBehind
      rw [take_setIfInBounds_succ (by omega), List.append_assoc] at later
      rw [overwrite, List.length_cons, Nat.add_comm rest.length 1, ← Nat.add_assoc]
      exact later

theorem length_words (within : storage.length ≤ storage.capacity) :
    storage.words.length = storage.length := by
  rw [words, List.length_take, Array.length_toList]
  exact Nat.min_eq_left within

theorem words_movedTo
    {count : Nat}
    {cells : Vector Int32 count}
    (within : storage.length ≤ storage.capacity)
    (larger : storage.capacity ≤ count)
    (count_pos : 0 < count) :
    (storage.movedTo cells count_pos).words = storage.words := by
  have room : 0 + storage.words.length ≤ cells.toArray.size := by
    rw [length_words within, Vector.size_toArray]
    omega
  have written := take_overwrite room
  rw [length_words within, Nat.zero_add] at written
  exact written

/-! ## One request -/

/-- What a request comes to: its commands are kept, or more cells are needed and refused. -/
inductive Extended
    (storage : Storage)
    (chunk : List UInt8)
    (allocate : Allocator) :
    EStateM.Result Failure Storage Nat → Prop where
  | kept
      {next : Storage}
      (room : storage.lengthWith chunk ≤ storage.capacity ∨
        allocate (storage.capacityWith chunk) ≠ none)
      (gains : storage.Gains chunk next) :
      Extended storage chunk allocate (.ok (Buffer.commands chunk).length next)
  | refused
      (tight : storage.capacity < storage.lengthWith chunk)
      (denied : allocate (storage.capacityWith chunk) = none) :
      Extended storage chunk allocate
        (.error (.bufferTooLarge (storage.capacityWith chunk)) storage)

theorem le_capacityWith
    (storage : Storage)
    (chunk : List UInt8) :
    storage.lengthWith chunk ≤ storage.capacityWith chunk := by
  obtain ⟨_, _, enough, _⟩ :=
    Buffer.isFirstDoubling_doubled storage.capacity (storage.lengthWith chunk) storage.capacity_pos
  exact enough

theorem capacityWith_of_fits (room : storage.lengthWith chunk ≤ storage.capacity) :
    storage.capacityWith chunk = storage.capacity :=
  Buffer.doubled_of_le storage.capacity_pos room

theorem gains_append (room : storage.lengthWith chunk ≤ storage.capacity) :
    storage.Gains chunk (storage.append ((Buffer.commands chunk).map Opcode.word)) := by
  have same : (storage.append ((Buffer.commands chunk).map Opcode.word)).length =
      storage.lengthWith chunk := by
    rw [append, List.length_map]
    rfl
  constructor
  case words =>
    apply take_overwrite
    rw [List.length_map]
    exact room
  case length => exact same
  case capacity =>
    rw [capacityWith_of_fits room]
    exact size_overwrite _ _ _

/-- A request for a chunk without commands changes nothing. -/
theorem extended_of_nil
    (within : storage.length ≤ storage.capacity)
    (empty : Buffer.commands chunk = []) :
    storage.Extended chunk allocate (extend chunk allocate storage) := by
  have stays : storage.lengthWith chunk = storage.length := by
    rw [lengthWith, empty]
    rfl
  have room : storage.lengthWith chunk ≤ storage.capacity := by
    rw [stays]
    exact within
  have unchanged : storage.Gains chunk storage := by
    constructor
    case words => rw [empty, List.map_nil, List.append_nil]
    case length => exact stays.symm
    case capacity => exact (capacityWith_of_fits room).symm
  have answers : extend chunk allocate storage = .ok (Buffer.commands chunk).length storage := by
    unfold extend
    rw [empty]
    rfl
  rw [answers]
  exact .kept (.inl room) unchanged

/-- In other cells that are enough, the commands stand behind the words that were copied. -/
theorem gains_append_movedTo
    {cells : Vector Int32 (storage.capacityWith chunk)}
    (within : storage.length ≤ storage.capacity)
    (tight : storage.capacity < storage.lengthWith chunk)
    (count_pos : 0 < storage.capacityWith chunk) :
    storage.Gains chunk
      ((storage.movedTo cells count_pos).append ((Buffer.commands chunk).map Opcode.word)) := by
  have enough := storage.le_capacityWith chunk
  have larger : (storage.movedTo cells count_pos).capacity = storage.capacityWith chunk := by
    rw [capacity, movedTo, size_overwrite, Vector.size_toArray]
  have room :
      (storage.movedTo cells count_pos).lengthWith chunk ≤
        (storage.movedTo cells count_pos).capacity := by
    rw [larger]
    exact enough
  have gains := gains_append room
  constructor
  case words => rw [gains.words, words_movedTo within (by omega) count_pos]
  case length => exact gains.length
  case capacity => rw [gains.capacity, capacityWith_of_fits room, larger]

theorem reserve_of_refused
    {needed : Nat}
    (tight : ¬ needed ≤ storage.capacity)
    (denied :
      allocate (Buffer.doubled storage.capacity needed storage.capacity_pos) = none) :
    reserve needed allocate storage =
      .error (.bufferTooLarge (Buffer.doubled storage.capacity needed storage.capacity_pos))
        storage := by
  unfold reserve
  simp only [tight, ↓reduceIte, denied]

theorem reserve_of_granted
    {needed : Nat}
    (tight : ¬ needed ≤ storage.capacity)
    {cells : Vector Int32 (Buffer.doubled storage.capacity needed storage.capacity_pos)}
    (granted :
      allocate (Buffer.doubled storage.capacity needed storage.capacity_pos) = some cells) :
    reserve needed allocate storage =
      .ok ()
        (storage.movedTo cells (Buffer.doubled_pos _ _ storage.capacity_pos)) := by
  unfold reserve
  simp only [tight, ↓reduceIte, granted]

theorem extend_of_ne_nil (filled : Buffer.commands chunk ≠ []) :
    extend chunk allocate storage =
      match reserve (storage.lengthWith chunk) allocate storage with
      | .error failure left => .error failure left
      | .ok _ roomy =>
          .ok (Buffer.commands chunk).length
            (roomy.append ((Buffer.commands chunk).map Opcode.word)) := by
  have some : ((Buffer.commands chunk).map Opcode.word).isEmpty = false := by
    rw [List.isEmpty_eq_false_iff, ne_eq, List.map_eq_nil_iff]
    exact filled
  unfold extend
  simp only [some, Bool.false_eq_true, ↓reduceIte, List.length_map]
  rfl

/-- A request that fails leaves the storage as it was, and any other keeps its commands. -/
theorem extended_extend
    (within : storage.length ≤ storage.capacity)
    (chunk : List UInt8)
    (allocate : Allocator) :
    storage.Extended chunk allocate (extend chunk allocate storage) := by
  by_cases empty : Buffer.commands chunk = []
  · exact extended_of_nil within empty
  · rw [extend_of_ne_nil empty]
    -- An allocation is asked for only when the chunk does not fit.
    by_cases room : storage.lengthWith chunk ≤ storage.capacity
    · have reserved : reserve (storage.lengthWith chunk) allocate storage = .ok () storage :=
        if_pos room
      rw [reserved]
      exact .kept (.inl room) (gains_append room)
    · cases answer : allocate (storage.capacityWith chunk) with
      | none =>
          rw [reserve_of_refused room answer]
          exact .refused (Nat.lt_of_not_le room) answer
      | some cells =>
          have granted : allocate (storage.capacityWith chunk) ≠ none := by
            rw [answer]
            exact Option.some_ne_none cells
          rw [reserve_of_granted room answer]
          exact .kept (.inr granted) (gains_append_movedTo within (Nat.lt_of_not_le room) _)

theorem Gains.within (gains : storage.Gains chunk next) :
    next.length ≤ next.capacity := by
  rw [gains.length, gains.capacity]
  exact storage.le_capacityWith chunk

/-! ## The same requests to a buffer -/

theorem Holds.lengthWith_eq
    (holds : storage.Holds buffer)
    (chunk : List UInt8) :
    storage.lengthWith chunk = buffer.size + (Buffer.commands chunk).length := by
  rw [lengthWith, holds.length]

theorem Holds.capacityWith_eq
    (holds : storage.Holds buffer)
    (chunk : List UInt8) :
    storage.capacityWith chunk =
      Buffer.doubled buffer.capacity (buffer.size + (Buffer.commands chunk).length)
        buffer.capacity_pos := by
  simp only [capacityWith, holds.lengthWith_eq, holds.capacity]

/-- A buffer keeps the commands that a storage keeps. -/
theorem Holds.kept
    {request : Request}
    (holds : storage.Holds buffer)
    (room : storage.lengthWith request.chunk ≤ storage.capacity ∨
      request.allocate (storage.capacityWith request.chunk) ≠ none)
    (gains : storage.Gains request.chunk next) :
    next.Holds (request.bufferBehind buffer) := by
  have fits := holds.within
  rw [holds.length, holds.capacity] at fits
  rw [holds.lengthWith_eq, holds.capacityWith_eq, holds.capacity] at room
  obtain ⟨longer, extended, contents, capacity⟩ :=
    Buffer.exists_extend_of_room (fun count => (request.allocate count).isSome)
      (room.imp_right Option.isSome_iff_ne_none.mpr)
  unfold Request.bufferBehind
  rw [extended]
  constructor
  case words =>
    rw [gains.words, holds.words, contents, List.map_append]
  case length =>
    rw [gains.length, holds.lengthWith_eq, Buffer.size, Buffer.size, ← Array.length_toList,
      ← Array.length_toList, contents, List.length_append]
  case capacity => rw [gains.capacity, holds.capacityWith_eq, capacity fits]
  case within => exact gains.within

/-- A buffer is left as it was where a storage is. -/
theorem Holds.refused
    {request : Request}
    (holds : storage.Holds buffer)
    (tight : storage.capacity < storage.lengthWith request.chunk)
    (denied : request.allocate (storage.capacityWith request.chunk) = none) :
    request.bufferBehind buffer = buffer := by
  rw [holds.lengthWith_eq, holds.capacity] at tight
  rw [holds.capacityWith_eq] at denied
  unfold Request.bufferBehind Buffer.extend
  cases kept : Buffer.commands request.chunk with
  | nil =>
      rfl
  | cons first more =>
      rw [kept] at tight denied
      simp only [List.isEmpty_cons, Bool.false_eq_true, ↓reduceIte, Buffer.reserve,
        Nat.not_le_of_lt tight, denied, Option.isSome_none]
      rfl

/-! ## All requests -/

@[simp]
theorem returnedBytes_ok
    (request : Request)
    (rest : List Request)
    (kept : Nat)
    (answers : List (Outcome Nat)) :
    returnedBytes (request :: rest) (.ok kept :: answers) =
      request.chunk ++ returnedBytes rest answers :=
  rfl

@[simp]
theorem returnedBytes_error
    (request : Request)
    (rest : List Request)
    (failure : Failure)
    (answers : List (Outcome Nat)) :
    returnedBytes (request :: rest) (.error failure :: answers) = returnedBytes rest answers :=
  rfl

@[simp]
theorem total_ok
    (kept : Nat)
    (answers : List (Outcome Nat)) :
    total (.ok kept :: answers) = kept + total answers :=
  rfl

@[simp]
theorem total_error
    (failure : Failure)
    (answers : List (Outcome Nat)) :
    total (.error failure :: answers) = total answers :=
  rfl

/-- What requests make of a storage and of the buffer that it holds. -/
structure GainsAll
    (storage : Storage)
    (requests : List Request)
    (answers : List (Outcome Nat))
    (last : Storage) :
    Prop where
  answered : answers.length = requests.length
  within : last.length ≤ last.capacity
  words : last.words =
    storage.words ++ (Buffer.commands (returnedBytes requests answers)).map Opcode.word
  length : last.length = storage.length + total answers
  capacity : ∀ start, Buffer.IsFirstDoubling start storage.length storage.capacity →
    Buffer.IsFirstDoubling start last.length last.capacity
  holds : ∀ buffer, storage.Holds buffer → last.Holds (bufferAfter requests buffer)

/-- Requests that return are kept in order, and those that fail are passed over. -/
theorem gainsAll_extendAll
    (requests : List Request)
    (within : storage.length ≤ storage.capacity) :
    storage.GainsAll requests (extendAll requests storage).1 (extendAll requests storage).2 := by
  induction requests generalizing storage with
  | nil =>
      exact
        { answered := rfl
          within := within
          words := (List.append_nil _).symm
          length := rfl
          capacity := fun _ first => first
          holds := fun _ holds => holds }
  | cons request rest inductionHypothesis =>
      have extended := extended_extend within request.chunk request.allocate
      unfold extendAll
      generalize extend request.chunk request.allocate storage = result at extended
      cases extended with
      | @kept next room gains =>
          have later := inductionHypothesis gains.within
          constructor
          case answered => exact congrArg Nat.succ later.answered
          case within => exact later.within
          case words =>
            rw [later.words, gains.words, returnedBytes_ok, Buffer.commands_append,
              List.map_append, List.append_assoc]
          case length =>
            rw [later.length, gains.length, total_ok, lengthWith, Nat.add_assoc]
          case capacity =>
            intro start first
            apply later.capacity
            rw [gains.length, gains.capacity]
            exact first.trans (Nat.le_add_right _ _)
              (Buffer.isFirstDoubling_doubled _ _ storage.capacity_pos)
          case holds =>
            intro buffer holds
            exact later.holds _ (holds.kept room gains)
      | refused tight denied =>
          -- The storage is the same: the other requests find it as if this one was not made.
          have later := inductionHypothesis within
          constructor
          case answered => exact congrArg Nat.succ later.answered
          case within => exact later.within
          case words => exact later.words
          case length => exact later.length
          case capacity => exact later.capacity
          case holds =>
            intro buffer holds
            change Holds _ (bufferAfter rest (request.bufferBehind buffer))
            rw [holds.refused tight denied]
            exact later.holds buffer holds

/-! ## The next request -/

theorem returning_extend
    {kept : Nat}
    (within : storage.length ≤ storage.capacity)
    (returned : extend chunk allocate storage = .ok kept next) :
    kept = (Buffer.commands chunk).length ∧ storage.Gains chunk next := by
  have extended := extended_extend within chunk allocate
  rw [returned] at extended
  cases extended with
  | kept room gains => exact ⟨rfl, gains⟩

theorem fitting_extend
    (within : storage.length ≤ storage.capacity)
    (room : storage.lengthWith chunk ≤ storage.capacity) :
    ∃ kept next, extend chunk allocate storage = .ok kept next ∧
      next.capacity = storage.capacity := by
  have extended := extended_extend within chunk allocate
  generalize extend chunk allocate storage = result at extended
  cases extended with
  | @kept next _ gains =>
      exact ⟨_, next, rfl, gains.capacity.trans (capacityWith_of_fits room)⟩
  | refused tight denied => exact absurd room (Nat.not_le_of_lt tight)

theorem failing_extend_iff
    {failure : Failure}
    {left : Storage}
    (within : storage.length ≤ storage.capacity) :
    extend chunk allocate storage = .error failure left ↔
      storage.capacity < storage.lengthWith chunk ∧
        allocate (storage.capacityWith chunk) = none ∧
        failure = .bufferTooLarge (storage.capacityWith chunk) ∧
        left = storage := by
  have extended := extended_extend within chunk allocate
  generalize extend chunk allocate storage = result at extended
  constructor
  · rintro rfl
    cases extended with
    | refused tight denied => exact ⟨tight, denied, rfl, rfl⟩
  · rintro ⟨tight, denied, rfl, rfl⟩
    cases extended with
    | kept room gains =>
        rcases room with fits | granted
        · exact absurd tight (Nat.not_lt_of_le fits)
        · exact absurd denied granted
    | refused _ _ => rfl

/-! ## From an empty storage -/

theorem numbers_freeze
    {opcodes : List Opcode}
    (words : storage.words = opcodes.map Opcode.word) :
    storage.freeze.numbers = opcodes.map fun opcode => (opcode.byte.toNat : Int) := by
  rw [← Program.numbers_ofOpcodes]
  unfold freeze Program.ofOpcodes
  rw [words]

/-- The commands among some bytes, as the numbers that they are spelled with. -/
theorem map_commands (chunk : List UInt8) :
    ((Buffer.commands chunk).map fun opcode => (opcode.byte.toNat : Int)) =
      (chunk.filter fun byte => Opcode.bytes.contains byte).map
        fun byte => (byte.toNat : Int) := by
  rw [Opcode.bytes, ← Opcode.map_filterMap_eq_filter fun _ _ => Opcode.ofByte?_eq_some_iff,
    List.map_map]
  rfl

/-- Whatever is requested of a storage and whatever allocations are refused, it keeps what it
told to have kept, in the fewest cells that doubling leads to. -/
theorem keepsReturned_extendAll
    {requested : Int}
    {allocate : Allocator}
    (granted : allocate (max 1 requested.toNat) ≠ none) :
    ∃ empty, create requested allocate = .ok empty ∧
      ∀ requests,
        KeepsReturned requested requests (extendAll requests empty).1
          (extendAll requests empty).2 := by
  obtain ⟨cells, answer⟩ := Option.ne_none_iff_exists'.mp granted
  have start_pos : 0 < max 1 requested.toNat := by omega
  let empty : Storage := ⟨cells.toArray, 0, by rw [Vector.size_toArray]; exact start_pos⟩
  have capacity : empty.capacity = max 1 requested.toNat := Vector.size_toArray cells
  have created : create requested allocate = .ok empty := by
    unfold create
    rw [answer]
  refine ⟨empty, created, ?_⟩
  intro requests
  have gains : empty.GainsAll requests _ _ := gainsAll_extendAll requests (Nat.zero_le _)
  obtain ⟨doublings, same, _, first⟩ :=
    gains.capacity empty.capacity ⟨0, by simp, Nat.zero_le _, fun _ none => by cases none⟩
  have asInteger : ((max 1 requested.toNat : Nat) : Int) = max 1 requested := by omega
  constructor
  case answered => exact gains.answered
  case within => exact gains.within
  case capacity =>
    refine ⟨doublings, ?_, ?_⟩
    · rw [same, capacity, ← asInteger, Int.natCast_mul, Int.natCast_pow]
      rfl
    · intro fewer less
      have short := first fewer less
      rw [capacity] at short
      rw [← asInteger]
      exact_mod_cast short
  case contents =>
    rw [numbers_freeze (gains.words.trans (List.nil_append _)), map_commands]
  case counts => exact (gains.length.trans (Nat.zero_add _)).symm
  case doubles => exact fun needed => Buffer.isFirstDoubling_doubled _ needed _
  case returning => exact fun _ _ _ _ returned => returning_extend gains.within returned
  case fitting => exact fun _ _ room => fitting_extend gains.within room
  case failing => exact fun _ _ _ _ => failing_extend_iff gains.within
  case buffer =>
    refine ⟨⟨#[], max 1 requested.toNat, start_pos⟩, rfl, gains.holds _ ?_⟩
    exact
      { words := rfl
        length := rfl
        capacity := capacity
        within := Nat.zero_le _ }

/-- Cells that hold sevens, granted up to four of them. -/
def fourCells : Allocator := fun count =>
  if count ≤ 4 then some (Vector.replicate count 7) else none

/-- Requests to keep three commands, three more, and one. -/
def threeRequests : List Request :=
  [⟨[43, 97, 45, 43], fourCells⟩, ⟨[43, 43, 43], fourCells⟩, ⟨[46], fourCells⟩]

/-- The second of three chunks needs eight cells, which are refused, and the third one fits. -/
theorem keepsReturned_extendAll_threeRequests :
    ∃ empty, create 0 fourCells = .ok empty ∧
      (extendAll threeRequests empty).1 = [.ok 3, .error (.bufferTooLarge 8), .ok 1] ∧
      (extendAll threeRequests empty).2.freeze.numbers = [43, 45, 43, 46] ∧
      KeepsReturned 0 threeRequests (extendAll threeRequests empty).1
        (extendAll threeRequests empty).2 := by
  have granted : fourCells (max 1 (0 : Int).toNat) ≠ none := by
    simp [fourCells]
  obtain ⟨empty, created, keeps⟩ := keepsReturned_extendAll granted
  have start : empty = ⟨#[7], 0, by decide⟩ := by
    have same : create 0 fourCells = .ok ⟨#[7], 0, by decide⟩ := by rfl
    rw [same] at created
    cases created
    rfl
  subst start
  exact ⟨_, created, by decide +kernel, by decide +kernel, keeps threeRequests⟩

end Storage

end Brainfuck
