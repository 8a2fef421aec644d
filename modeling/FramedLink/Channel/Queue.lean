import FramedLink.LittleEndian

/-!
# Queues of octets

A first-in first-out queue that knows its size. Octets leave the front in the order in which they
were put behind the end; a queue is its list of octets, and the size is kept beside it because it is
asked for far more often than the octets change.
-/

namespace FramedLink

/-- A queue of octets, next octet first. -/
structure ByteQueue where
  octets : Bytes
  size : Nat := octets.length
  size_eq : size = octets.length := by rfl

namespace ByteQueue

def empty : ByteQueue := { octets := [] }

instance : Inhabited ByteQueue := ⟨empty⟩

@[simp]
theorem octets_empty : empty.octets = [] := rfl

@[ext]
theorem ext {q r : ByteQueue} (h : q.octets = r.octets) : q = r := by
  obtain ⟨octets, size, hsize⟩ := q
  obtain ⟨octets', size', hsize'⟩ := r
  obtain rfl : octets = octets' := h
  obtain rfl : size = size' := hsize.trans hsize'.symm
  rfl

def push (q : ByteQueue) (more : Bytes) : ByteQueue where
  octets := q.octets ++ more
  size := q.size + more.length
  size_eq := by rw [List.length_append, q.size_eq]

@[simp]
theorem octets_push (q : ByteQueue) (more : Bytes) : (q.push more).octets = q.octets ++ more := rfl

def pop (q : ByteQueue) (count : Nat) : Bytes × ByteQueue :=
  (q.octets.take count,
    { octets := q.octets.drop count
      size := q.size - count
      size_eq := by rw [List.length_drop, q.size_eq] })

@[simp]
theorem pop_fst (q : ByteQueue) (count : Nat) : (q.pop count).1 = q.octets.take count := rfl

@[simp]
theorem octets_pop_snd (q : ByteQueue) (count : Nat) :
    (q.pop count).2.octets = q.octets.drop count := rfl

/-- Nothing is lost and nothing changes order when octets are taken. -/
theorem pop_append (q : ByteQueue) (count : Nat) :
    (q.pop count).1 ++ (q.pop count).2.octets = q.octets := by
  simp

end ByteQueue

end FramedLink
