import NodeGate.Proofs.Checks
import NodeGate.Proofs.Visits

/-!
# Rounds of a watch

A watch goes round by round until someone interrupts it. What is done in a round depends on the
answers of the server and on nothing else: the rounds are read off the answers (`Plays`), and their
`course` is a list of steps and of visits, in which each node stands where it is handed to the
controller. The calls of the controller are put in afterwards, one for each visit (`played`). A call
that raises leaves other steps in its place, but there is no way for it to change the course.

`loop_of_plays` shows that the loop plays the course, by induction on the rounds. `watch_plays_course`
tells the same of the whole command and for all answers whose nodes can be converted.
-/

set_option autoImplicit false

namespace NodeGate

/-! ## Rounds -/

/-- The server has forgotten the state that the watch began with. -/
def CallFault.expired : CallFault → Bool
  | .refused r => r.status = some 410
  | .unreachable _ => false

/-- A round that ended: nodes could not be listed, or they were listed and changes came until the
watch ended by itself or with a fault. -/
inductive Round
  | unlisted (f : CallFault)
  | followed (nodes : List Node) (changes : List (String × Node)) (fault : Option CallFault)

/-- How far the last round came before it was interrupted. -/
inductive Interruption
  | whileListing
  | whileFollowing (nodes : List Node) (changes : List (String × Node))

/-- The nodes of the changes in order, but for those that tell of a deletion. -/
def remaining : List (String × Node) → List Node
  | [] => []
  | (kind, n) :: changes => if kind = "DELETED" then remaining changes else n :: remaining changes

/-- The nodes that are handed to the controller: the listed ones, then those that changed. -/
def Round.nodes : Round → List Node
  | unlisted _ => []
  | followed nodes changes _ => nodes ++ remaining changes

def Interruption.nodes : Interruption → List Node
  | whileListing => []
  | whileFollowing nodes changes => nodes ++ remaining changes

/-- What the round failed with. A watch that expired did not fail. -/
def Round.trouble : Round → Option GateError
  | unlisted f => some (.nodesNotListed f)
  | followed _ _ none => none
  | followed _ _ (some f) => if f.expired then none else some (.watchFailed f)

/-! ## Answers of the server -/

abbrev Listing := Except Failure (List NodeObject)

/-- The changes that come over a watch, and the fault that ends it; what comes after it is lost. -/
inductive Brings : List Delivery → List (String × Node) → Option Failure → Prop
  | finished : Brings [] [] none
  | fault (f : Failure) (rest : List Delivery) : Brings (.fault f :: rest) [] (some f)
  | change {stream : List Delivery} {changes : List (String × Node)} {fault : Option Failure}
      {kind : String} {object : NodeObject} {n : Node} (hn : Node.ofObject object = .ok n)
      (hrest : Brings stream changes fault) :
      Brings (.change kind object :: stream) ((kind, n) :: changes) fault

/-- The nodes of a listing, in order. -/
def Reads (objects : List NodeObject) (nodes : List Node) : Prop :=
  List.Forall₂ (fun o n => Node.ofObject o = .ok n) objects nodes

/-- The rounds that these listings and watches make up, and how the last one is interrupted. Where
the answers end there is an interruption too. -/
inductive Plays : List Listing → List (List Delivery) → List Round → Interruption → Prop
  | exhausted (streams : List (List Delivery)) : Plays [] streams [] .whileListing
  | interrupted (lists : List Listing) (streams : List (List Delivery)) :
      Plays (.error (.fault .interrupted) :: lists) streams [] .whileListing
  | unwatched {objects : List NodeObject} {nodes : List Node} (hread : Reads objects nodes)
      (lists : List Listing) :
      Plays (.ok objects :: lists) [] [] (.whileFollowing nodes [])
  | cut {objects : List NodeObject} {nodes : List Node} {stream : List Delivery}
      {changes : List (String × Node)} (hread : Reads objects nodes)
      (hstream : Brings stream changes (some (.fault .interrupted)))
      (lists : List Listing) (streams : List (List Delivery)) :
      Plays (.ok objects :: lists) (stream :: streams) [] (.whileFollowing nodes changes)
  | unlisted {lists : List Listing} {streams : List (List Delivery)}
      {rounds : List Round} {last : Interruption} (f : CallFault)
      (hrest : Plays lists streams rounds last) :
      Plays (.error (.fault (.call f)) :: lists) streams (.unlisted f :: rounds) last
  | followed {lists : List Listing} {streams : List (List Delivery)}
      {rounds : List Round} {last : Interruption} {objects : List NodeObject} {nodes : List Node}
      {stream : List Delivery} {changes : List (String × Node)} {fault : Option CallFault}
      (hread : Reads objects nodes)
      (hstream : Brings stream changes (fault.map fun f => .fault (.call f)))
      (hrest : Plays lists streams rounds last) :
      Plays (.ok objects :: lists) (stream :: streams) (.followed nodes changes fault :: rounds) last

/-- A listing whose nodes can be converted, a request that failed, or an interruption. -/
def ListingFits (answer : Listing) : Prop :=
  (∃ objects, answer = .ok objects ∧ ∀ o ∈ objects, ∃ n, Node.ofObject o = .ok n) ∨
    (∃ f, answer = failed f) ∨ answer = .error (.fault .interrupted)

/-- A node that can be converted, a fault of the watch, or an interruption. -/
def DeliveryFits (d : Delivery) : Prop :=
  (∃ kind object n, d = .change kind object ∧ Node.ofObject object = .ok n) ∨
    (∃ f, d = .fault (.fault (.call f))) ∨ d = .fault (.fault .interrupted)

theorem exists_reads {objects : List NodeObject}
    (h : ∀ o ∈ objects, ∃ n, Node.ofObject o = .ok n) : ∃ nodes, Reads objects nodes := by
  obtain ⟨nodes, hnodes⟩ := exists_mapM_eq_ok h
  exact ⟨nodes, mapM_eq_ok_iff.1 hnodes⟩

theorem exists_brings {stream : List Delivery} (h : ∀ d ∈ stream, DeliveryFits d) :
    ∃ changes,
      (∃ fault : Option CallFault, Brings stream changes (fault.map fun f => .fault (.call f))) ∨
      Brings stream changes (some (.fault .interrupted)) := by
  induction stream with
  | nil => exact ⟨[], .inl ⟨none, .finished⟩⟩
  | cons d stream ih =>
    rcases h d List.mem_cons_self with ⟨kind, object, n, rfl, hn⟩ | ⟨f, rfl⟩ | rfl
    · obtain ⟨changes, hends⟩ := ih fun d hd => h d (List.mem_cons_of_mem _ hd)
      refine ⟨(kind, n) :: changes, hends.imp ?_ (.change hn)⟩
      rintro ⟨fault, hstream⟩
      exact ⟨fault, .change hn hstream⟩
    · exact ⟨[], .inl ⟨some f, .fault _ _⟩⟩
    · exact ⟨[], .inr (.fault _ _)⟩

theorem exists_plays {lists : List Listing} {streams : List (List Delivery)}
    (hlists : ∀ answer ∈ lists, ListingFits answer)
    (hstreams : ∀ stream ∈ streams, ∀ d ∈ stream, DeliveryFits d) :
    ∃ rounds last, Plays lists streams rounds last := by
  induction lists generalizing streams with
  | nil => exact ⟨[], _, .exhausted streams⟩
  | cons answer lists ih =>
    have hrest : ∀ answer ∈ lists, ListingFits answer :=
      fun answer hanswer => hlists answer (List.mem_cons_of_mem _ hanswer)
    rcases hlists answer List.mem_cons_self with ⟨objects, rfl, hobjects⟩ | ⟨f, rfl⟩ | rfl
    · obtain ⟨nodes, hread⟩ := exists_reads hobjects
      cases streams with
      | nil => exact ⟨[], _, .unwatched hread lists⟩
      | cons stream streams =>
        obtain ⟨changes, ⟨fault, hstream⟩ | hcut⟩ :=
          exists_brings (hstreams stream List.mem_cons_self)
        · obtain ⟨rounds, last, hplays⟩ :=
            ih hrest fun stream hstream => hstreams stream (List.mem_cons_of_mem _ hstream)
          exact ⟨_, last, .followed hread hstream hplays⟩
        · exact ⟨[], _, .cut hread hcut lists streams⟩
    · obtain ⟨rounds, last, hplays⟩ := ih hrest hstreams
      exact ⟨_, last, .unlisted f hplays⟩
    · exact ⟨[], _, .interrupted lists streams⟩

theorem Reads.unique {objects : List NodeObject} {nodes nodes' : List Node} (h : Reads objects nodes)
    (h' : Reads objects nodes') : nodes = nodes' := by
  induction h generalizing nodes' with
  | nil =>
    cases h'
    rfl
  | cons hn _ ih =>
    cases h' with
    | cons hn' hrest =>
      cases hn.symm.trans hn'
      rw [ih hrest]

theorem Brings.unique {stream : List Delivery} {changes changes' : List (String × Node)}
    {fault fault' : Option Failure} (h : Brings stream changes fault)
    (h' : Brings stream changes' fault') : changes = changes' ∧ fault = fault' := by
  induction h generalizing changes' with
  | finished =>
    cases h'
    exact ⟨rfl, rfl⟩
  | fault f rest =>
    cases h'
    exact ⟨rfl, rfl⟩
  | change hn _ ih =>
    cases h' with
    | change hn' hrest =>
      cases hn.symm.trans hn'
      obtain ⟨rfl, rfl⟩ := ih hrest
      exact ⟨rfl, rfl⟩

theorem Brings.not_cut {stream : List Delivery} {changes changes' : List (String × Node)}
    {fault : Option CallFault} (h : Brings stream changes (fault.map fun f => .fault (.call f))) :
    ¬ Brings stream changes' (some (.fault .interrupted)) := by
  intro h'
  have hfault := (h.unique h').2
  cases fault with
  | none => cases hfault
  | some f => cases hfault

/-- The answers make up no other rounds. -/
theorem Plays.unique {lists : List Listing} {streams : List (List Delivery)}
    {rounds rounds' : List Round} {last last' : Interruption} (h : Plays lists streams rounds last)
    (h' : Plays lists streams rounds' last') : rounds = rounds' ∧ last = last' := by
  induction h generalizing rounds' with
  | exhausted streams =>
    cases h'
    exact ⟨rfl, rfl⟩
  | interrupted lists streams =>
    cases h'
    exact ⟨rfl, rfl⟩
  | unwatched hread lists =>
    cases h' with
    | unwatched hread' =>
      rw [hread.unique hread']
      exact ⟨rfl, rfl⟩
  | cut hread hstream lists streams =>
    cases h' with
    | cut hread' hstream' =>
      rw [hread.unique hread', (hstream.unique hstream').1]
      exact ⟨rfl, rfl⟩
    | followed hread' hstream' hrest => exact absurd hstream hstream'.not_cut
  | unlisted f hrest ih =>
    cases h' with
    | unlisted _ hrest' =>
      obtain ⟨rfl, rfl⟩ := ih hrest'
      exact ⟨rfl, rfl⟩
  | followed hread hstream hrest ih =>
    cases h' with
    | cut hread' hstream' => exact absurd hstream' hstream.not_cut
    | followed hread' hstream' hrest' =>
      obtain ⟨rfl, rfl⟩ := ih hrest'
      obtain ⟨rfl, hfault⟩ := hstream.unique hstream'
      have hinjective : Function.Injective fun f => Failure.fault (.call f) := by
        intro f g hfg
        cases hfg
        rfl
      rw [hread.unique hread', Option.map_injective hinjective hfault]
      exact ⟨rfl, rfl⟩

/-! ## The course -/

/-- A step that the command takes itself, or a node that it hands to the controller. -/
inductive Move
  | step (s : Step)
  | visit (n : Node)

/-- A listing with all its nodes, and a watch with all that changed and remain. -/
def following (seconds : Int) (nodes : List Node) (changes : List (String × Node)) : List Move :=
  .step (.call .listNodes) :: nodes.map .visit ++
    .step (.call (.watch seconds)) :: (remaining changes).map .visit

/-- Trouble is logged once, and there is one rest. -/
def recovery : Option GateError → List Step
  | none => []
  | some e => [.log ⟨.error, loggerOf "cli", s!"Node watch error: {e.text}"⟩, .sleep Watch.rest]

def expiry (fault : Option CallFault) : List Step :=
  if fault.any CallFault.expired then
    [.log ⟨.info, loggerOf "kube", "Node watch expired, restarting"⟩]
  else []

/-- What a round ends with, after its last visit. -/
def Round.closing : Round → List Step
  | unlisted f => recovery (unlisted f).trouble
  | followed nodes changes fault =>
    expiry fault ++ .call .stopWatch :: recovery (followed nodes changes fault).trouble

def Round.moves (seconds : Int) (round : Round) : List Move :=
  (match round with
    | unlisted _ => [.step (.call .listNodes)]
    | followed nodes changes _ => following seconds nodes changes) ++ round.closing.map .step

def Interruption.moves (seconds : Int) : Interruption → List Move
  | whileListing => [.step (.call .listNodes)]
  | whileFollowing nodes changes => following seconds nodes changes ++ [.step (.call .stopWatch)]

/-- All moves of the rounds up to the interruption. -/
def course (seconds : Int) (rounds : List Round) (last : Interruption) : List Move :=
  rounds.flatMap (Round.moves seconds) ++ last.moves seconds

def visits (moves : List Move) : List Node :=
  moves.filterMap fun
    | .visit n => some n
    | .step _ => none

/-- The steps of a course whose visits, numbered from `turn` on, leave these steps. -/
def played (visit : Nat → Node → List Step) : Nat → List Move → List Step
  | _, [] => []
  | turn, .step s :: moves => s :: played visit turn moves
  | turn, .visit n :: moves => visit turn n ++ played visit (turn + 1) moves

section Course

variable {seconds : Int} {nodes : List Node} {changes : List (String × Node)}
  {visit : Nat → Node → List Step} {turn : Nat} {moves : List Move}

theorem visits_append (moves rest : List Move) :
    visits (moves ++ rest) = visits moves ++ visits rest :=
  List.filterMap_append

theorem visits_map_visit (nodes : List Node) : visits (nodes.map .visit) = nodes := by
  induction nodes with
  | nil => rfl
  | cons n nodes ih => exact congrArg (n :: ·) ih

theorem visits_map_step (steps : List Step) : visits (steps.map .step) = [] := by
  unfold visits
  rw [List.filterMap_eq_nil_iff]
  intro move hmove
  obtain ⟨s, _, rfl⟩ := List.mem_map.1 hmove
  rfl

theorem visits_following :
    visits (following seconds nodes changes) = nodes ++ remaining changes := by
  unfold following
  rw [visits_append]
  exact congrArg₂ (· ++ ·) (visits_map_visit nodes) (visits_map_visit _)

theorem Round.visits_moves (round : Round) : visits (round.moves seconds) = round.nodes := by
  unfold Round.moves
  rw [visits_append, visits_map_step, List.append_nil]
  cases round with
  | unlisted f => rfl
  | followed nodes changes fault => exact visits_following

theorem visits_course (rounds : List Round) (last : Interruption) :
    visits (course seconds rounds last) = rounds.flatMap Round.nodes ++ last.nodes := by
  have hlast : visits (last.moves seconds) = last.nodes := by
    cases last with
    | whileListing => rfl
    | whileFollowing nodes changes =>
      unfold Interruption.moves
      rw [visits_append, visits_following]
      exact List.append_nil _
  unfold course
  rw [visits_append, hlast]
  congr 1
  induction rounds with
  | nil => rfl
  | cons round rounds ih =>
    rw [List.flatMap_cons, visits_append, round.visits_moves, ih, List.flatMap_cons]

theorem played_append (rest : List Move) :
    played visit turn (moves ++ rest) =
      played visit turn moves ++ played visit (turn + (visits moves).length) rest := by
  induction moves generalizing turn with
  | nil => rfl
  | cons move moves ih =>
    cases move with
    | step s => exact congrArg (s :: ·) ih
    | visit n =>
      show visit turn n ++ played visit (turn + 1) (moves ++ rest) =
        _ ++ _ ++ played visit (turn + ((visits moves).length + 1)) rest
      rw [ih, Nat.add_assoc, Nat.add_comm 1, List.append_assoc]

theorem played_map_visit (nodes : List Node) :
    played visit turn (nodes.map .visit) =
      (nodes.zipIdx turn).flatMap fun x => visit x.2 x.1 := by
  induction nodes generalizing turn with
  | nil => rfl
  | cons n nodes ih => exact congrArg (visit turn n ++ ·) ih

theorem played_map_step (steps : List Step) : played visit turn (steps.map .step) = steps := by
  induction steps with
  | nil => rfl
  | cons s steps ih => exact congrArg (s :: ·) ih

theorem played_following :
    played visit turn (following seconds nodes changes) =
      .call .listNodes :: ((nodes.zipIdx turn).flatMap fun x => visit x.2 x.1) ++
        .call (.watch seconds) :: ((remaining changes).zipIdx (turn + nodes.length)).flatMap
          fun x => visit x.2 x.1 := by
  unfold following
  rw [played_append]
  show _ :: played visit turn (nodes.map .visit) ++
    _ :: played visit (turn + (visits (nodes.map .visit)).length) _ = _
  rw [played_map_visit, played_map_visit, visits_map_visit]

theorem played_course_cons (round : Round) (rounds : List Round) (last : Interruption) :
    played visit turn (course seconds (round :: rounds) last) =
      played visit turn (round.moves seconds) ++
        played visit (turn + round.nodes.length) (course seconds rounds last) := by
  unfold course
  rw [List.flatMap_cons, List.append_assoc, played_append, round.visits_moves]

end Course

/-! ## The loop -/

theorem arrivals_eq (changes : List (String × Node)) : Watch.arrivals changes = remaining changes := by
  unfold Watch.arrivals
  induction changes with
  | nil => rfl
  | cons change changes ih =>
    obtain ⟨kind, n⟩ := change
    unfold remaining
    by_cases h : kind = "DELETED"
    · rw [if_pos h, List.filter_cons_of_neg (by simpa using h), ih]
    · rw [if_neg h, List.filter_cons_of_pos (by simpa using h), List.map_cons, ih]

theorem nodesOf_of_reads {objects : List NodeObject} {nodes : List Node} (h : Reads objects nodes) :
    Api.nodesOf (.ok objects) = .ok nodes := by
  show objects.mapM (fun o => Api.converted (Node.ofObject o)) = .ok nodes
  rw [mapM_eq_ok_iff]
  refine h.imp fun o n hn => ?_
  rw [hn]
  rfl

def endingOf? : Option Failure → Api.Ending
  | none => .finished
  | some f => Api.endingOf f

theorem readStream_of_brings {stream : List Delivery} {changes : List (String × Node)}
    {fault : Option Failure} (h : Brings stream changes fault) :
    Api.readStream stream = (changes, endingOf? fault) := by
  induction h with
  | finished => rfl
  | fault f rest => rfl
  | change hn hrest ih =>
    unfold Api.readStream
    rw [hn, ih]

/-- A watch that was not interrupted leaves the note that it expired, or the trouble, or neither. -/
theorem conclude_endingOf? (nodes : List Node) (changes : List (String × Node))
    (fault : Option CallFault) :
    Api.conclude (endingOf? (fault.map fun f => .fault (.call f))) =
      ⟨expiry fault,
        match (Round.followed nodes changes fault).trouble with
        | none => .ok ()
        | some e => .error (.gate e)⟩ := by
  cases fault with
  | none => rfl
  | some f =>
    cases f with
    | unreachable t => rfl
    | refused r =>
      by_cases h : r.status = some 410
      · simp [endingOf?, Api.endingOf, Api.conclude, expiry, Round.trouble, CallFault.expired, h,
          Run.log, Run.step]
      · simp [endingOf?, Api.endingOf, Api.conclude, expiry, Round.trouble, CallFault.expired, h,
          Run.fail]

section Loop

variable {handle : Nat → Node → Run Unit} (h : ∀ i n, (handle i n).result = .ok ())
  (seconds : Int) (turn : Nat) {lists : List Listing}
  {streams : List (List Delivery)}

theorem loop_of_unlisted (f : CallFault) :
    Watch.loop handle seconds turn (.error (.fault (.call f)) :: lists) streams =
      .after (played (fun i n => (handle i n).trace) turn ((Round.unlisted f).moves seconds))
        (Watch.loop handle seconds turn lists streams) := rfl

include h

theorem forM_of_ok {items : List (Node × Nat)} :
    items.forM (fun x => handle x.2 x.1) =
      ⟨items.flatMap fun x => (handle x.2 x.1).trace, .ok ()⟩ :=
  Run.forM_of_ok fun x _ => h x.2 x.1

theorem follow_of_ok {items : List (Node × Nat)} (ending : Api.Ending) :
    Api.follow seconds (items, ending) (fun x => handle x.2 x.1) =
      .after (.call (.watch seconds) :: items.flatMap fun x => (handle x.2 x.1).trace)
        ((Api.conclude ending).closing (.call .stopWatch)) := by
  unfold Api.follow
  rw [forM_of_ok h]
  show (⟨_, _⟩ : Run Unit) = ⟨_, _⟩
  simp [Run.bind_eq_after, Run.after, Run.closing, Run.step]

/-- A listing that can be read is gone through, and so is the watch after it, before anything is
made of how that ends. -/
theorem loop_of_listed {objects : List NodeObject} {nodes : List Node}
    {changes : List (String × Node)} {ending : Api.Ending} (hread : Reads objects nodes)
    (hstream : Watch.streamOf streams = (changes, ending)) :
    Watch.loop handle seconds turn (.ok objects :: lists) streams =
      .after (played (fun i n => (handle i n).trace) turn (following seconds nodes changes)) (do
        match ← ((Api.conclude ending).closing (.call .stopWatch)).outcome with
        | .error e => Watch.recover e
        | .ok _ => pure ()
        Watch.loop handle seconds (turn + (nodes ++ remaining changes).length) lists
          streams.tail) := by
  have hlength : turn + (nodes ++ remaining changes).length =
      turn + nodes.length + ((remaining changes).zipIdx (turn + nodes.length)).length := by
    rw [List.length_append, List.length_zipIdx, Nat.add_assoc]
  have hlisting : (Run.ask .listNodes (.ok nodes)).outcome =
      ⟨[.call .listNodes], .ok (.ok nodes)⟩ := rfl
  -- only this round is opened, not the ones that follow it on the other side
  conv_lhs => unfold Watch.loop
  rw [nodesOf_of_reads hread, hlength, played_following, hlisting, Run.bind_eq_after rfl]
  simp only [hstream, arrivals_eq]
  rw [forM_of_ok h, follow_of_ok h, Run.bind_eq_after rfl, Run.outcome_after, Run.after_bind,
    Run.after_append]
  rfl

/-- **One round**: its moves are played, and the next round begins where they end. -/
theorem loop_of_followed {objects : List NodeObject} {nodes : List Node} {stream : List Delivery}
    {changes : List (String × Node)} {fault : Option CallFault} (hread : Reads objects nodes)
    (hstream : Brings stream changes (fault.map fun f => .fault (.call f))) :
    Watch.loop handle seconds turn (.ok objects :: lists) (stream :: streams) =
      .after (played (fun i n => (handle i n).trace) turn
          ((Round.followed nodes changes fault).moves seconds))
        (Watch.loop handle seconds (turn + (Round.followed nodes changes fault).nodes.length) lists
          streams) := by
  have hends : Watch.streamOf (stream :: streams) =
      (changes, endingOf? (fault.map fun f => .fault (.call f))) := readStream_of_brings hstream
  rw [loop_of_listed h seconds turn hread hends]
  unfold Round.moves
  rw [played_append, played_map_step, Run.after_append, conclude_endingOf? nodes changes]
  congr 1
  show _ = Run.after (expiry fault ++ .call .stopWatch ::
    recovery (Round.followed nodes changes fault).trouble) _
  cases (Round.followed nodes changes fault).trouble with
  | none => rfl
  | some e =>
    show Run.after (expiry fault ++ [.call .stopWatch]) (Run.after (recovery (some e)) _) = _
    rw [← Run.after_append, List.append_assoc]
    rfl

theorem loop_of_cut {objects : List NodeObject} {nodes : List Node} {changes : List (String × Node)}
    (hread : Reads objects nodes)
    (hstream : Watch.streamOf streams = (changes, .failed (.fault .interrupted))) :
    Watch.loop handle seconds turn (.ok objects :: lists) streams =
      ⟨played (fun i n => (handle i n).trace) turn
          (course seconds [] (.whileFollowing nodes changes)),
        .error (.fault .interrupted)⟩ := by
  rw [loop_of_listed h seconds turn hread hstream]
  show _ = (⟨played _ turn
    (following seconds nodes changes ++ [Step.call .stopWatch].map .step), _⟩ : Run Unit)
  rw [played_append, played_map_step]
  rfl

/-- **The loop plays the course.** -/
theorem loop_of_plays {rounds : List Round} {last : Interruption}
    (hplays : Plays lists streams rounds last) :
    Watch.loop handle seconds turn lists streams =
      ⟨played (fun i n => (handle i n).trace) turn (course seconds rounds last),
        .error (.fault .interrupted)⟩ := by
  -- an interruption leaves the loop, and after any other round it goes on where the next one begins
  induction hplays generalizing turn with
  | exhausted streams => rfl
  | interrupted lists streams => rfl
  | unwatched hread lists => exact loop_of_cut h seconds turn hread rfl
  | cut hread hstream lists streams =>
    exact loop_of_cut h seconds turn hread (readStream_of_brings hstream)
  | unlisted f hrest ih =>
    rw [loop_of_unlisted, ih, played_course_cons]
    rfl
  | followed hread hstream hrest ih =>
    rw [loop_of_followed h seconds turn hread hstream, ih, played_course_cons]
    rfl

end Loop

/-! ## Rests -/

section Rests

variable {visit : Nat → Node → List Step} (hvisit : ∀ turn n, Silent (visit turn n)) (seconds : Int)
include hvisit

theorem silent_following (turn : Nat) (nodes : List Node) (changes : List (String × Node)) :
    Silent (played visit turn (following seconds nodes changes)) := by
  have hvisits (items : List (Node × Nat)) : Silent (items.flatMap fun x => visit x.2 x.1) :=
    .flatMap fun x => hvisit x.2 x.1
  rw [played_following]
  exact ((hvisits _).cons rfl).append ((hvisits _).cons rfl)

theorem silent_last (turn : Nat) (last : Interruption) :
    Silent (played visit turn (last.moves seconds)) := by
  cases last with
  | whileListing => exact Silent.nil.cons rfl
  | whileFollowing nodes changes =>
    show Silent (played visit turn
      (following seconds nodes changes ++ [Step.call .stopWatch].map .step))
    rw [played_append, played_map_step]
    exact (silent_following hvisit seconds turn nodes changes).append (.cons rfl .nil)

/-- A round that failed is followed by one rest, any other by none. -/
theorem pauses_round {α : Type} (turn : Nat) (round : Round) (r : Run α) :
    (r.after (played visit turn (round.moves seconds))).pauses =
      (if round.trouble.isSome then [Watch.rest] else []) ++ r.pauses := by
  unfold Round.moves
  rw [played_append, played_map_step, Run.after_append]
  cases round with
  | unlisted f => rfl
  | followed nodes changes fault =>
    have hexpiry : Silent (expiry fault ++ [.call .stopWatch]) := by
      unfold expiry
      split
      · simp [Silent, Step.silent]
      · simp [Silent, Step.silent]
    rw [(silent_following hvisit seconds turn nodes changes).pauses_after]
    show (r.after (expiry fault ++ .call .stopWatch ::
      recovery (Round.followed nodes changes fault).trouble)).pauses = _
    rw [List.append_cons, Run.after_append, hexpiry.pauses_after]
    cases (Round.followed nodes changes fault).trouble with
    | none => rfl
    | some e => rfl

theorem pauses_course {α : Type} (turn : Nat) (rounds : List Round) (last : Interruption)
    (r : Run α) :
    (r.after (played visit turn (course seconds rounds last))).pauses =
      List.replicate (rounds.countP fun round => round.trouble.isSome) Watch.rest ++ r.pauses := by
  induction rounds generalizing turn with
  | nil => exact (silent_last hvisit seconds turn last).pauses_after r
  | cons round rounds ih =>
    rw [played_course_cons, Run.after_append, pauses_round hvisit, ih, List.countP_cons]
    split
    · rw [Nat.add_comm, List.replicate_add, List.append_assoc]
      rfl
    · rfl

end Rests

/-! ## The command -/

def banner (resync : Int) : Step :=
  .print (.markup s!"[bold cyan]Watching nodes[/bold cyan] (resync every {resync}s)")

def farewell : Step := .print (.markup "\n[yellow]Watch interrupted by user[/yellow]")

/-- **A watch plays its course until it is interrupted.** Let the nodes that come be such that they
can be converted, and let requests fail and watches end in any way. Then the answers make up rounds,
and these fix what any watch over them does, whatever the controller and however its calls end, with
a result or an error, each at its own time: it hands over the nodes of all rounds in order, each where
the course has it; it rests once after every round that failed, and not otherwise; and it ends when it
is interrupted, with the code for that. -/
theorem watch_plays_course (s : Surroundings) (hlists : ∀ answer ∈ s.api.lists, ListingFits answer)
    (hstreams : ∀ stream ∈ s.api.watches, ∀ d ∈ stream, DeliveryFits d) :
    ∃ rounds last, Plays s.api.lists s.api.watches rounds last ∧
      ∀ (c : Common) (resync : Int) (controller : Controller) (cluster : Nat → Cluster)
        (clock : Nat → Moment), (s.connect c).result = .ok controller →
        (∀ turn n, (controller.handle (cluster turn) (clock turn) n).Reported) →
        (s.watchOver cluster clock resync c).trace = (s.connect c).trace ++ banner resync ::
            played (fun turn n => told (controller.handle (cluster turn) (clock turn) n) n) 0
              (course resync rounds last) ++ [farewell] ∧
          (s.watchOver cluster clock resync c).result = .ok 130 ∧
          visits (course resync rounds last) = rounds.flatMap Round.nodes ++ last.nodes ∧
          (s.watchOver cluster clock resync c).pauses =
            List.replicate (rounds.countP fun round => round.trouble.isSome) Watch.rest := by
  obtain ⟨rounds, last, hplays⟩ := exists_plays hlists hstreams
  refine ⟨rounds, last, hplays, ?_⟩
  -- the rounds are fixed by now, before there is a controller
  intro c resync controller cluster clock hconnect hreported
  have hhandle : ∀ turn n, Watch.handleNode controller (cluster turn) (clock turn) n =
      ⟨told (controller.handle (cluster turn) (clock turn) n) n, .ok ()⟩ :=
    fun turn n => handleNode_of_reported (hreported turn n)
  have hloop := loop_of_plays (fun turn n => congrArg Run.result (hhandle turn n)) resync 0 hplays
  simp only [hhandle] at hloop
  have hrun : s.watchOver cluster clock resync c =
      .after ((s.connect c).trace ++ [banner resync])
        (.after (played (fun turn n => told (controller.handle (cluster turn) (clock turn) n) n) 0
          (course resync rounds last)) ⟨[farewell], .ok 130⟩) := by
    have hends : (s.connect c).EndsWith (.ok controller) := hconnect
    unfold Surroundings.watchOver
    rw [hends.outcome_eq, Run.bind_eq_after rfl, Run.after_append]
    simp only [hloop]
    rfl
  rw [hrun]
  refine ⟨?_, rfl, visits_course rounds last, ?_⟩
  · simp [Run.after]
  · rw [Run.after_append, (s.silent_connect c).pauses_after]
    show (Run.after _ (⟨[farewell], .ok 130⟩ : Run Nat)).pauses = _
    rw [pauses_course fun turn n => silent_told n]
    exact List.append_nil _

namespace Restless

open Outage

def expired : CallFault := .refused ⟨some 410, some "Gone", none⟩

/-- The first listing is refused. Then a watch expires, the next one breaks off, and the last one is
interrupted. Over the first watch two changes come that are no deletions. -/
def api : Api :=
  { calm with
    lists := [failed forbidden, .ok [Shelf.object "worker-2", Shelf.object "worker-1"],
      .ok [Shelf.object "worker-1"], .ok []]
    watches := [
      [.change "MODIFIED" (Shelf.object "worker-2"), .change "DELETED" (Shelf.object "worker-1"),
        .change "ADDED" (Shelf.object "worker-4"), .fault (.fault (.call expired))],
      [.fault (.fault (.call reset)), .change "ADDED" (Shelf.object "worker-4")],
      [.change "ADDED" (Shelf.object "worker-3"), .fault (.fault .interrupted)]] }

/-- The second node that is handled cannot be written. -/
def server (turn : Nat) : Api := if turn = 1 then cut else calm

def cluster (turn : Nat) : Cluster := (server turn).cluster Drifted.now

theorem scripted_server (turn : Nat) : Scripted (server turn) fun _ => server turn := by
  unfold server
  split
  · exact scripted_cut
  · exact ⟨fun _ _ => .inl ⟨[], rfl, by simp⟩, fun _ _ => .inl rfl, fun _ => .inl rfl⟩

theorem reported_handle (turn : Nat) (n : Node) :
    (Shelf.controller.handle (cluster turn) Drifted.now n).Reported :=
  Controller.reported_handle (scripted_server turn) _ _ _ n

theorem listingFits : ∀ answer ∈ api.lists, ListingFits answer := by
  have hobjects (names : List String) :
      ∀ o ∈ names.map Shelf.object, ∃ n, Node.ofObject o = .ok n := by
    intro o ho
    obtain ⟨name, _, rfl⟩ := List.mem_map.1 ho
    exact ⟨Shelf.node name, Shelf.ofObject_object name⟩
  refine List.forall_mem_cons.2 ⟨.inr (.inl ⟨forbidden, rfl⟩), ?_⟩
  refine List.forall_mem_cons.2 ⟨.inl ⟨_, rfl, hobjects ["worker-2", "worker-1"]⟩, ?_⟩
  refine List.forall_mem_cons.2 ⟨.inl ⟨_, rfl, hobjects ["worker-1"]⟩, ?_⟩
  exact List.forall_mem_cons.2 ⟨.inl ⟨_, rfl, hobjects []⟩, List.forall_mem_nil _⟩

theorem deliveryFits : ∀ stream ∈ api.watches, ∀ d ∈ stream, DeliveryFits d := by
  have hchange : ∀ kind name, DeliveryFits (.change kind (Shelf.object name)) :=
    fun kind name => .inl ⟨kind, _, Shelf.node name, rfl, Shelf.ofObject_object name⟩
  have hfault : ∀ f, DeliveryFits (.fault (.fault (.call f))) := fun f => .inr (.inl ⟨f, rfl⟩)
  have hcut : DeliveryFits (.fault (.fault .interrupted)) := .inr (.inr rfl)
  simp [api, hchange, hfault, hcut]

def rounds : List Round :=
  [.unlisted forbidden,
    .followed [Shelf.node "worker-2", Shelf.node "worker-1"]
      [("MODIFIED", Shelf.node "worker-2"), ("DELETED", Shelf.node "worker-1"),
        ("ADDED", Shelf.node "worker-4")] (some expired),
    .followed [Shelf.node "worker-1"] [] (some reset)]

theorem plays :
    Plays api.lists api.watches rounds (.whileFollowing [] [("ADDED", Shelf.node "worker-3")]) := by
  refine .unlisted _ (.followed (.cons rfl (.cons rfl .nil)) ?_ ?_)
  · exact .change rfl (.change rfl (.change rfl (.fault _ _)))
  · exact .followed (.cons rfl .nil) (.fault _ _) (.cut .nil (.change rfl (.fault _ _)) _ _)

end Restless

/-- The nodes of all three watches are handled, the one that cannot be written too, and there are two
rests: the watch that expired calls for none. -/
theorem watch_plays_course_restless :
    ((Shelf.withApi Restless.api).connect Shelf.options).result = .ok Shelf.controller ∧
    (∀ turn n, (Shelf.controller.handle (Restless.cluster turn) Drifted.now n).Reported) ∧
    (∃ e, (Shelf.controller.handle (Restless.cluster 1) Drifted.now (Shelf.node "worker-1")).result =
      .error (.gate e)) ∧
    ∃ rounds last, Plays Restless.api.lists Restless.api.watches rounds last ∧
      visits (course 300 rounds last) =
        ["worker-2", "worker-1", "worker-2", "worker-4", "worker-1", "worker-3"].map Shelf.node ∧
      ((Shelf.withApi Restless.api).watchOver Restless.cluster (fun _ => Drifted.now) 300
        Shelf.options).result = .ok 130 ∧
      ((Shelf.withApi Restless.api).watchOver Restless.cluster (fun _ => Drifted.now) 300
        Shelf.options).pauses = [5, 5] := by
  have hconnect := Shelf.connect_withApi Restless.api
  obtain ⟨rounds, last, hplays, hwatch⟩ := watch_plays_course (Shelf.withApi Restless.api)
    Restless.listingFits Restless.deliveryFits
  obtain ⟨rfl, rfl⟩ := hplays.unique Restless.plays
  obtain ⟨_, hresult, hvisits, hpauses⟩ := hwatch Shelf.options 300 _ Restless.cluster
    (fun _ => Drifted.now) hconnect Restless.reported_handle
  exact ⟨hconnect, Restless.reported_handle, ⟨_, rfl⟩, _, _, hplays, hvisits.trans (by decide), hresult,
    hpauses.trans (by decide)⟩

end NodeGate
