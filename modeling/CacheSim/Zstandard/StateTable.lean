import CacheSim.Zstandard.Distribution

/-!
# Tables of states

A row of symbols can be written as the way of a machine through its states.  Every state stands for
a symbol, and for where the machine goes next: to one of a few states, chosen by the next bits.
How many states a symbol has is given by a distribution.
-/

namespace CacheSim.Zstandard

/-- A state. -/
structure State where
  /-- The symbol of the state. -/
  symbol : Nat
  /-- How many bits choose the next state. -/
  width : Nat
  /-- The next state if these bits are zeros. -/
  base : Nat

/-- The states of a machine; there are `2 ^ log`. -/
structure StateTable where
  log : Nat
  states : Array State

namespace StateTable

/-- The table with a single symbol. -/
def single (symbol : Nat) : StateTable :=
  ⟨0, #[⟨symbol, 0, 0⟩]⟩

/-- The symbols of all states.  Rare symbols take the last states.  The others are spread by a
step that visits every state once. -/
def spread (d : Distribution) : Array Nat :=
  let size := 1 <<< d.log
  let symbols := d.points.zipIdx
  let rare := (symbols.filter (·.1 == -1)).map (·.2)
  let common := symbols.flatMap fun (points, symbol) => List.replicate points.toNat symbol
  let step := size / 2 + size / 8 + 3
  let places := ((List.range size).map (· * step % size)).filter (· < size - rare.length)
  let table := (rare.zipIdx).foldl (fun t (symbol, i) => t.setIfInBounds (size - 1 - i) symbol)
    (Array.replicate size 0)
  (places.zip common).foldl (fun t (place, symbol) => t.setIfInBounds place symbol) table

/-- The table of a distribution.  The states of a symbol share out the whole range of states: they
are numbered upwards from the points of the symbol, and the number of a state tells its part. -/
def ofDistribution (d : Distribution) : StateTable :=
  let size := 1 <<< d.log
  let first := (d.points.map Int.natAbs).toArray
  let (states, _) := (spread d).foldl
    (fun (states, numbers) symbol =>
      let number := numbers.getD symbol 1
      let width := d.log - Nat.log2 number
      (states.push ⟨symbol, width, number <<< width - size⟩,
        numbers.setIfInBounds symbol (number + 1)))
    (#[], first)
  ⟨d.log, states⟩

/-- A state by its number. -/
def state (t : StateTable) (number : Nat) : State :=
  t.states.getD number ⟨0, 0, 0⟩

/-- The state in which the machine starts. -/
def start? (t : StateTable) (bits : DownwardBits) : Option (State × DownwardBits) := do
  let (number, bits) ← DownwardBits.read? t.log bits
  some (t.state number, bits)

/-- The state that follows a state. -/
def next? (t : StateTable) (s : State) (bits : DownwardBits) : Option (State × DownwardBits) := do
  let (offset, bits) ← DownwardBits.read? s.width bits
  some (t.state (s.base + offset), bits)

end StateTable

end CacheSim.Zstandard
