import OfflineSigner.Proofs.Key.Backup
import Mathlib.Data.List.Rotate

/-!
# Runs of a cycle of seeds

A source is asked for seeds again and again, by callers with a buffer to fill and by callers who
make a key pair. What a cycle hands out does not depend on what is in a buffer, and if it fails it
leaves the buffer alone, so it makes no difference who draws. A cycle hands out its seeds in turn
while its counter runs through its 64 bits. Where the counter starts again the cycle starts again as
well, so it keeps its turn for ever exactly if the number of seeds divides `2^64`; three seeds lose
it at the draw of number `2^64`.
-/

namespace OfflineSigner

/-- Who asks a source for a seed. -/
inductive Caller where
  /-- Someone with a buffer to fill. -/
  | buffer (contents : Seed)
  /-- Someone who makes a key pair. -/
  | keyPair
deriving DecidableEq

/-- What a caller is left with. -/
inductive Handout where
  /-- How filling the buffer came out, and what the buffer holds. -/
  | buffer (outcome : Except KeyError Unit) (contents : Seed)
  /-- The key pair, or why there is none. -/
  | keyPair (outcome : Except KeyError KeyPair)

/-- What a caller makes of a drawn seed, and of a draw that fails. -/
def Caller.receive : Caller → Except KeyError Seed → Handout
  | buffer _, .ok seed => .buffer (.ok ()) seed
  | buffer contents, .error error => .buffer (.error error) contents
  | keyPair, .ok seed => .keyPair (.ok (.ofSeed seed))
  | keyPair, .error error => .keyPair (.error error)

/-- A caller can tell different seeds apart. -/
theorem Caller.receive_ok_injective (caller : Caller) {seed other : Seed}
    (h : caller.receive (.ok seed) = caller.receive (.ok other)) : seed = other := by
  cases caller with
  | buffer contents => exact (Handout.buffer.inj h).2
  | keyPair => exact congrArg KeyPair.seed (Except.ok.inj (Handout.keyPair.inj h))

namespace Entropy

variable {σ : Type}

/-- Serves a caller from a source. -/
def serve (source : Entropy σ) (state : σ) : Caller → Handout × σ
  | .buffer contents =>
    let ((outcome, contents), next) := source.fill contents state
    (.buffer outcome contents, next)
  | .keyPair =>
    let (outcome, next) := KeyPair.generate source state
    (.keyPair outcome, next)

/-- Serves callers one after the other. -/
def serveAll (source : Entropy σ) : σ → List Caller → List Handout × σ
  | state, [] => ([], state)
  | state, caller :: rest =>
    let (handout, next) := source.serve state caller
    let (handouts, last) := serveAll source next rest
    (handout :: handouts, last)

/-- However a buffer is filled, a draw comes out in one way, and it leaves the buffer alone if it
fails. -/
def Draws (source : Entropy σ) (state : σ) (outcome : Except KeyError Seed) (next : σ) : Prop :=
  ∀ buffer, source.fill buffer state = match outcome with
    | .ok seed => ((.ok (), seed), next)
    | .error error => ((.error error, buffer), next)

variable {source : Entropy σ} {state next : σ} {outcome : Except KeyError Seed}

/-- Whoever is served, there is a single draw, and the caller receives what comes of it. -/
theorem Draws.serve_eq (h : source.Draws state outcome next) (caller : Caller) :
    source.serve state caller = (caller.receive outcome, next) := by
  cases caller with
  | buffer contents =>
    rw [serve, h contents]
    cases outcome <;> rfl
  | keyPair =>
    rw [serve, KeyPair.generate, h]
    cases outcome <;> rfl

/-- The first caller of a run receives what is drawn, and the others are served after that. -/
theorem Draws.serveAll_cons (h : source.Draws state outcome next) (caller : Caller)
    (rest : List Caller) :
    source.serveAll state (caller :: rest) =
      (caller.receive outcome :: (source.serveAll next rest).1, (source.serveAll next rest).2) := by
  rw [serveAll, h.serve_eq]

end Entropy

namespace SeedCycle

variable {seeds : List Seed} {callers : List Caller}

/-- A cycle from which a number of seeds has been drawn. -/
def afterDraws (seeds : List Seed) (count : Nat) : SeedCycle :=
  ⟨seeds, UInt64.ofNat count⟩

/-- The seed that a cycle hands out after a number of draws. -/
def seedAt (seeds : List Seed) (hseeds : seeds ≠ []) (count : Nat) : Seed :=
  seeds.get ⟨count % UInt64.size % seeds.length, Nat.mod_lt _ (List.length_pos_of_ne_nil hseeds)⟩

/-- Its place among the seeds is that of the counter. -/
theorem getElem?_eq_seedAt (hseeds : seeds ≠ []) (count : Nat) :
    seeds[count % UInt64.size % seeds.length]? = some (seedAt seeds hseeds count) :=
  List.getElem?_eq_getElem _

/-- A cycle with seeds hands out the one at the counter and moves the counter on, beyond its last
value too. -/
theorem draws_afterDraws (hseeds : seeds ≠ []) (count : Nat) :
    source.Draws (afterDraws seeds count) (.ok (seedAt seeds hseeds count))
      (afterDraws seeds (count + 1)) := by
  intro buffer
  have hplace : (UInt64.ofNat count).toNat = count % UInt64.size := UInt64.toNat_ofNat'
  have hmoved : UInt64.ofNat count + 1 = UInt64.ofNat (count + 1) := by
    rw [UInt64.ofNat_add]
    rfl
  change fill buffer (afterDraws seeds count) = _
  rw [fill, afterDraws, hplace, getElem?_eq_seedAt hseeds, afterDraws, hmoved]

/-- An empty cycle fails, and it leaves the buffer and itself as they are. -/
theorem draws_nil (drawn : UInt64) :
    source.Draws ⟨[], drawn⟩ (.error (.entropy "null entropy has no seeds")) ⟨[], drawn⟩ := by
  intro buffer
  rfl

/-- In a run, the caller of number `i` receives the seed at the counter moved on by `i`. -/
theorem serveAll_afterDraws (hseeds : seeds ≠ []) (callers : List Caller) (count : Nat) :
    source.serveAll (afterDraws seeds count) callers =
      (callers.mapIdx fun i caller => caller.receive (.ok (seedAt seeds hseeds (count + i))),
        afterDraws seeds (count + callers.length)) := by
  induction callers generalizing count with
  | nil => rfl
  | cons caller rest ih =>
    have hcount : ∀ i, count + 1 + i = count + (i + 1) := by omega
    rw [(draws_afterDraws hseeds count).serveAll_cons, ih, List.mapIdx_cons, List.length_cons]
    simp only [hcount, Nat.add_zero]

/-- An empty cycle refuses every caller of a run and stays as it is. -/
theorem serveAll_of_nil (callers : List Caller) (drawn : UInt64) :
    source.serveAll ⟨[], drawn⟩ callers =
      (callers.map (·.receive (.error (.entropy "null entropy has no seeds"))), ⟨[], drawn⟩) := by
  induction callers with
  | nil => rfl
  | cons caller rest ih => rw [(draws_nil drawn).serveAll_cons, ih, List.map_cons]

/-- What the callers of a run are left with when it starts at the beginning of a cycle. -/
def handouts (seeds : List Seed) (callers : List Caller) : List Handout :=
  (source.serveAll (ofList seeds) callers).1

/-- Each caller of such a run receives the seed at the number of callers before it. -/
theorem handouts_eq (hseeds : seeds ≠ []) (callers : List Caller) :
    handouts seeds callers =
      callers.mapIdx fun i caller => caller.receive (.ok (seedAt seeds hseeds i)) := by
  have hstart : ofList seeds = afterDraws seeds 0 := rfl
  rw [handouts, hstart, serveAll_afterDraws hseeds]
  simp only [Nat.zero_add]

/-- The caller of number `k` in a run receives the seed at the counter after `k` draws. -/
theorem getElem?_handouts (hseeds : seeds ≠ []) {k : Nat} {caller : Caller}
    (hcaller : callers[k]? = some caller) :
    (handouts seeds callers)[k]? = some (caller.receive (.ok (seedAt seeds hseeds k))) := by
  rw [handouts_eq hseeds, List.getElem?_mapIdx, hcaller, Option.map_some]

/-- In every run it is the next seed that is handed out, and the first one after the last. -/
def KeepsTurn (seeds : List Seed) : Prop :=
  ∀ (callers : List Caller) (k : Nat) (caller : Caller), callers[k]? = some caller →
    ∃ seed, seeds[k % seeds.length]? = some seed ∧
      (handouts seeds callers)[k]? = some (caller.receive (.ok seed))

/-- Before the counter starts again, and for ever if it starts again together with the turn, the
place of the counter is the turn. -/
theorem place_eq_turn {k n : Nat} (h : k < UInt64.size ∨ n ∣ UInt64.size) :
    k % UInt64.size % n = k % n := by
  rcases h with hbelow | hdvd
  · rw [Nat.mod_eq_of_lt hbelow]
  · rw [Nat.mod_mod_of_dvd k hdvd]

/-- So the seed at the counter is then the one whose turn it is. -/
theorem exists_seed_in_turn (hseeds : seeds ≠ []) {k : Nat} {caller : Caller}
    (hcaller : callers[k]? = some caller) (h : k < UInt64.size ∨ seeds.length ∣ UInt64.size) :
    ∃ seed, seeds[k % seeds.length]? = some seed ∧
      (handouts seeds callers)[k]? = some (caller.receive (.ok seed)) := by
  refine ⟨seedAt seeds hseeds k, ?_, getElem?_handouts hseeds hcaller⟩
  rw [← place_eq_turn h]
  exact getElem?_eq_seedAt hseeds k

/-- Where the counter starts again, the first seed is handed out. -/
theorem getElem?_handouts_size (hseeds : seeds ≠ []) {caller : Caller}
    (hcaller : callers[UInt64.size]? = some caller) :
    ∃ first, seeds[0]? = some first ∧
      (handouts seeds callers)[UInt64.size]? = some (caller.receive (.ok first)) := by
  refine ⟨seedAt seeds hseeds UInt64.size, ?_, getElem?_handouts hseeds hcaller⟩
  rw [← getElem?_eq_seedAt hseeds, Nat.mod_self, Nat.zero_mod]

/-- If the seeds are different and the turn is kept for ever, the counter starts again together with
the turn. -/
theorem KeepsTurn.dvd (hturn : KeepsTurn seeds) (hseeds : seeds ≠ []) (hnodup : seeds.Nodup) :
    seeds.length ∣ UInt64.size := by
  have hlength : 0 < seeds.length := List.length_pos_of_ne_nil hseeds
  have hcaller : (List.replicate (UInt64.size + 1) Caller.keyPair)[UInt64.size]? = some .keyPair :=
    List.getElem?_replicate_of_lt (Nat.lt_succ_self _)
  obtain ⟨seed, hseed, hhandout⟩ := hturn _ _ _ hcaller
  obtain ⟨first, hfirst, hagain⟩ := getElem?_handouts_size hseeds hcaller
  obtain rfl : seed = first :=
    Caller.receive_ok_injective _ (Option.some.inj (hhandout.symm.trans hagain))
  have hzero : UInt64.size % seeds.length = 0 :=
    (List.getElem?_inj (Nat.mod_lt _ hlength) hnodup).mp (hseed.trans hfirst.symm)
  exact Nat.dvd_of_mod_eq_zero hzero

/-- In a part of a run where the counter is in step with the turn, as many callers as there are
seeds receive each of them once, in the order of the cycle from a given seed on. -/
theorem take_drop_handouts (hseeds : seeds ≠ []) (callers : List Caller) {start shift : Nat}
    (hstep : ∀ i < seeds.length,
      (start + i) % UInt64.size % seeds.length = (i + shift) % seeds.length) :
    ((handouts seeds callers).drop start).take seeds.length =
      List.zipWith Caller.receive ((callers.drop start).take seeds.length)
        ((seeds.rotate shift).map .ok) := by
  apply List.ext_getElem?
  intro i
  by_cases hi : i < seeds.length
  · have hseed : (seeds.rotate shift)[i]? = some (seedAt seeds hseeds (start + i)) := by
      rw [List.getElem?_rotate hi, ← hstep i hi]
      exact getElem?_eq_seedAt hseeds (start + i)
    rw [List.getElem?_take_of_lt hi, List.getElem?_drop, handouts_eq hseeds,
      List.getElem?_mapIdx, List.getElem?_zipWith, List.getElem?_take_of_lt hi,
      List.getElem?_drop, List.getElem?_map, hseed]
    cases callers[start + i]? <;> rfl
  · rw [List.getElem?_eq_none (by simp; omega), List.getElem?_eq_none (by simp; omega)]

/-- A cycle hands out its seeds in turn, whoever draws them, as long as its counter of 64 bits has
not started again: the caller of number `k` in a run receives the seed at `k` modulo `2^64` modulo
the number of seeds. That is the seed at `k` modulo the number of seeds for the first `2^64`
callers, and for all callers if the number of seeds divides `2^64`; different seeds keep their turn
for ever in no other case. As many callers in a row as there are seeds receive each of them once in
the order of the cycle, unless the counter starts again between them out of step. An empty cycle
refuses every caller and leaves every buffer as it was. -/
theorem hands_out_in_turn (seeds : List Seed) (callers : List Caller) :
    (seeds ≠ [] →
      (∀ k caller, callers[k]? = some caller →
        ∃ seed, seeds[k % UInt64.size % seeds.length]? = some seed ∧
          (handouts seeds callers)[k]? = some (caller.receive (.ok seed))) ∧
      (∀ k caller, k < UInt64.size → callers[k]? = some caller →
        ∃ seed, seeds[k % seeds.length]? = some seed ∧
          (handouts seeds callers)[k]? = some (caller.receive (.ok seed))) ∧
      (seeds.length ∣ UInt64.size → KeepsTurn seeds) ∧
      (seeds.Nodup → KeepsTurn seeds → seeds.length ∣ UInt64.size) ∧
      (∀ start, start % UInt64.size + seeds.length ≤ UInt64.size →
        ((handouts seeds callers).drop start).take seeds.length =
          List.zipWith Caller.receive ((callers.drop start).take seeds.length)
            ((seeds.rotate (start % UInt64.size)).map .ok)) ∧
      (seeds.length ∣ UInt64.size → ∀ start,
        ((handouts seeds callers).drop start).take seeds.length =
          List.zipWith Caller.receive ((callers.drop start).take seeds.length)
            ((seeds.rotate start).map .ok))) ∧
    (seeds = [] →
      handouts seeds callers =
        callers.map (·.receive (.error (.entropy "null entropy has no seeds"))) ∧
      ∀ buffer, source.fill buffer (ofList seeds) =
        ((.error (.entropy "null entropy has no seeds"), buffer), ofList seeds)) := by
  constructor
  · intro hseeds
    refine ⟨?_, ?_, ?_, ?_, ?_, ?_⟩
    · intro k caller hcaller
      exact ⟨_, getElem?_eq_seedAt hseeds k, getElem?_handouts hseeds hcaller⟩
    · intro k caller hbelow hcaller
      exact exists_seed_in_turn hseeds hcaller (Or.inl hbelow)
    · intro hdvd others k caller hcaller
      exact exists_seed_in_turn hseeds hcaller (Or.inr hdvd)
    · intro hnodup hturn
      exact hturn.dvd hseeds hnodup
    · intro start hfits
      apply take_drop_handouts hseeds
      intro i hi
      have hplace : (start + i) % UInt64.size = start % UInt64.size + i := by
        rw [Nat.add_mod, Nat.mod_eq_of_lt (a := i) (by omega), Nat.mod_eq_of_lt (by omega)]
      rw [hplace, Nat.add_comm]
    · intro hdvd start
      apply take_drop_handouts hseeds
      intro i _
      rw [place_eq_turn (Or.inr hdvd), Nat.add_comm]
  · rintro rfl
    exact ⟨congrArg Prod.fst (serveAll_of_nil callers 0), draws_nil 0⟩

/-- The seed that repeats a byte. -/
def repeating (byte : UInt8) : Seed := .replicate 32 byte

/-- Two seeds go round among callers of both kinds: a key pair is made of the second seed, the third
caller gets the first seed again, and two callers from the second one on get the seeds the other
way round. Two seeds keep their turn for ever. -/
theorem hands_out_in_turn_twoSeeds :
    let seeds := [repeating 1, repeating 2]
    let callers := [Caller.buffer (repeating 9), .keyPair, .buffer (repeating 9)]
    (handouts seeds callers)[1]? = some (.keyPair (.ok (.ofSeed (repeating 2)))) ∧
    (handouts seeds callers)[2]? = some (.buffer (.ok ()) (repeating 1)) ∧
    ((handouts seeds callers).drop 1).take 2 =
      [.keyPair (.ok (.ofSeed (repeating 2))), .buffer (.ok ()) (repeating 1)] ∧
    KeepsTurn seeds ∧
    handouts [] callers = callers.map
      (·.receive (.error (.entropy "null entropy has no seeds"))) := by
  intro seeds callers
  have hseeds : seeds ≠ [] := List.cons_ne_nil _ _
  have hdvd : seeds.length ∣ UInt64.size := by decide
  obtain ⟨hat, hbelow, hkeeps, -, hwindow, -⟩ := (hands_out_in_turn seeds callers).1 hseeds
  refine ⟨?_, ?_, hwindow 1 (by decide), hkeeps hdvd,
    ((hands_out_in_turn [] callers).2 rfl).1⟩
  · obtain ⟨seed, hseed, hhandout⟩ := hat 1 .keyPair rfl
    have hsecond : seeds[1 % UInt64.size % seeds.length]? = some (repeating 2) := by decide
    obtain rfl := Option.some.inj (hsecond.symm.trans hseed)
    exact hhandout
  · obtain ⟨seed, hseed, hhandout⟩ := hbelow 2 (.buffer (repeating 9)) (by decide) rfl
    have hfirst : seeds[2 % seeds.length]? = some (repeating 1) := by decide
    obtain rfl := Option.some.inj (hfirst.symm.trans hseed)
    exact hhandout

/-- Three seeds do not: the caller behind the first `2^64` receives the first seed although it is
the turn of the second one. -/
theorem three_seeds_lose_turn :
    let seeds := [repeating 1, repeating 2, repeating 3]
    let callers := List.replicate (UInt64.size + 1) (Caller.buffer (repeating 0))
    (handouts seeds callers)[UInt64.size]? = some (.buffer (.ok ()) (repeating 1)) ∧
    seeds[UInt64.size % seeds.length]? = some (repeating 2) ∧ repeating 1 ≠ repeating 2 ∧
    ¬ KeepsTurn seeds := by
  intro seeds callers
  have hseeds : seeds ≠ [] := List.cons_ne_nil _ _
  have hcaller : callers[UInt64.size]? = some (.buffer (repeating 0)) :=
    List.getElem?_replicate_of_lt (Nat.lt_succ_self _)
  obtain ⟨first, hfirst, hagain⟩ := getElem?_handouts_size hseeds hcaller
  obtain rfl : repeating 1 = first := Option.some.inj hfirst
  refine ⟨hagain, by decide, by decide, ?_⟩
  intro hturn
  have hdvd : seeds.length ∣ UInt64.size := hturn.dvd hseeds (by decide)
  exact absurd hdvd (by decide)

end SeedCycle

end OfflineSigner
