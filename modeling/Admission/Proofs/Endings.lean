import Admission.Proofs.Mirror

/-!
# When a watch ends

The feed learns that a watch is over only when it has something to tell: it then gives up every
watcher whose context is cancelled or whose reader has left. Until then the stream of a cancelled
watch stays open, although nothing is sent on it any more, and a reader that has taken everything
waits for more. From the next change on, the stream is closed and the feed has no sender for it.

The state of a watch is followed through all happenings. What carries the argument is that the feed
has the watcher exactly as long as the stream has its writer; the writer goes away in a step exactly
if there is something to tell and the watch is not live.
-/

namespace Admission

/-- Whether the reader of a stream takes what is there. -/
def Happening.reads (stream : Nat) : Happening → Bool
  | readStream other => other == stream
  | _ => false

theorem Happening.empties_eq (happening : Happening) (stream : Nat) :
    happening.empties stream = (happening.reads stream || happening.drops stream) := by
  cases happening <;> simp [empties, reads, drops]

namespace System

/-- What the reader of a stream takes in a course of happenings. -/
def takenFrom (stream : Nat) : System → List Happening → List FeedItem
  | _, [] => []
  | system, happening :: rest =>
      (if happening.reads stream then system.unread stream else []) ++
        takenFrom stream (system.undergo happening) rest

/-- Whether the feed has something to tell at a time when a watch is not live. -/
def discovers (watcher : Watcher) : System → List Happening → Bool
  | _, [] => false
  | system, happening :: rest =>
      (happening.tells system.cluster.resources).isSome && !system.isLive watcher ||
        discovers watcher (system.undergo happening) rest

/-- The feed has the watcher of a stream as long as the stream has its writer. -/
def KeepsSender (watcher : Watcher) (feed : MemoryFeed) (stream : Stream) : Prop :=
  feed.watchers.filter (fun other => other.stream == watcher.stream) =
    if stream.hasWriter then [watcher] else []

section Steps

variable {system : System} {watcher : Watcher} {feed nextFeed : MemoryFeed}
  {stream nextStream : Stream} {happening : Happening}

namespace Hears

/-- The writer leaves if there is something to tell and the watch is not live. -/
theorem hasWriter_eq (hears : Hears system watcher feed stream happening nextFeed nextStream)
    (keeps : KeepsSender watcher feed stream) :
    nextStream.hasWriter =
      (stream.hasWriter &&
        !((happening.tells feed.resources).isSome && !system.isLive watcher)) := by
  rw [hears.hasWriter, keeps]
  cases stream.hasWriter with
  | false => rfl
  | true =>
      cases happening.tells feed.resources with
      | none => simp
      | some change => simp

theorem keepsSender (hears : Hears system watcher feed stream happening nextFeed nextStream)
    (keeps : KeepsSender watcher feed stream) : KeepsSender watcher nextFeed nextStream := by
  rw [KeepsSender, hears.watchers, hears.hasWriter_eq keeps, keeps]
  cases stream.hasWriter with
  | false => rfl
  | true =>
      cases happening.tells feed.resources with
      | none => simp
      | some change => cases live : system.isLive watcher <;> simp [live]

/-- As long as the reader stays, no item is lost: it is taken or still there. -/
theorem items_eq (hears : Hears system watcher feed stream happening nextFeed nextStream)
    (watched : system.Watched watcher feed stream) (stays : nextStream.hasReader = true) :
    stream.items ++ sentIn watcher.stream system (system.undergo happening) =
      (if happening.reads watcher.stream then stream.items else []) ++ nextStream.items := by
  have kept := hears.hasReader
  rw [stays] at kept
  have stayed : happening.drops watcher.stream = false := by
    cases drops : happening.drops watcher.stream with
    | false => rfl
    | true => simp [drops] at kept
  rw [sentIn, unread_of_found watched.found, unread_of_found hears.watched.found, hears.sent,
    hears.items, happening.empties_eq, stayed, Bool.or_false]
  cases happening.reads watcher.stream <;> simp

end Hears

/-- What becomes of a watch in a course of happenings. -/
structure Lasts (system : System) (watcher : Watcher) (stream : Stream)
    (happenings : List Happening) (lastFeed : MemoryFeed) (lastStream : Stream) : Prop where
  watched : (system.run (happenings.map .elsewhere)).Watched watcher lastFeed lastStream
  keeps : KeepsSender watcher lastFeed lastStream
  hasWriter : lastStream.hasWriter = (stream.hasWriter && !discovers watcher system happenings)
  items : lastStream.hasReader = true →
    stream.items ++ system.collect (sentIn watcher.stream) (happenings.map .elsewhere) =
      takenFrom watcher.stream system happenings ++ lastStream.items
  hasReader : lastStream.hasReader = true → stream.hasReader = true

theorem Watched.lasts (watched : system.Watched watcher feed stream)
    (keeps : KeepsSender watcher feed stream) (happenings : List Happening) :
    ∃ lastFeed lastStream, Lasts system watcher stream happenings lastFeed lastStream := by
  induction happenings generalizing system feed stream with
  | nil =>
      refine ⟨feed, stream, watched, keeps, ?_, ?_, id⟩
      · rw [discovers, Bool.not_false, Bool.and_true]
      · intro _
        rw [List.map_nil, collect, takenFrom, List.append_nil, List.nil_append]
  | cons happening rest ih =>
      rcases watched.undergo happening with ⟨nextFeed, nextStream, hears⟩
      rcases ih hears.watched (hears.keepsSender keeps) with ⟨lastFeed, lastStream, lasts⟩
      refine ⟨lastFeed, lastStream, lasts.watched, lasts.keeps, ?_, ?_, ?_⟩
      · rw [lasts.hasWriter, hears.hasWriter_eq keeps, discovers, watched.cluster_eq, Bool.not_or,
          Bool.and_assoc]
      · intro reading
        have first := hears.items_eq watched (lasts.hasReader reading)
        rw [List.map_cons, collect, perform, ← List.append_assoc, first, List.append_assoc,
          lasts.items reading, takenFrom, unread_of_found watched.found, List.append_assoc]
      · intro reading
        have before := hears.hasReader
        rw [lasts.hasReader reading] at before
        exact (Bool.and_eq_true_iff.mp before.symm).1

/-- Where the feed has something to tell after the context of a watch was cancelled. -/
theorem discovers_of_told {early later : List Happening}
    (cancelled : (system.run (early.map .elsewhere)).isCancelled watcher.context = true)
    (tells : (happening.tells (system.run (early.map .elsewhere)).cluster.resources).isSome = true) :
    discovers watcher system (early ++ happening :: later) = true := by
  induction early generalizing system with
  | nil =>
      have dead : system.isLive watcher = false := by
        have known : system.isCancelled watcher.context = true := cancelled
        simp [isLive, known]
      have told : (happening.tells system.cluster.resources).isSome = true := tells
      simp [discovers, told, dead]
  | cons first rest ih =>
      have after : discovers watcher (system.undergo first) (rest ++ happening :: later) = true :=
        ih cancelled tells
      rw [List.cons_append, discovers, after, Bool.or_true]

end Steps

end System

namespace Vigil

variable (vigil : Vigil)

/-- What the reader has taken. -/
def taken : List FeedItem :=
  System.takenFrom vigil.stream vigil.begun vigil.after

/-- Whether the feed had something to tell while the watch was not live. -/
def isDiscovered : Bool :=
  System.discovers ⟨vigil.context, vigil.stream⟩ vigil.begun vigil.after

/-- How a watch ends. -/
structure Ends (vigil : Vigil) : Prop where
  opens : (vigil.opened.watchFeed System.clusterFeed vigil.context).2 =
    .ok (MemoryFeed.name, vigil.stream)
  /-- The stream is closed exactly after the feed had something to tell while the watch was not live,
  and the feed has a sender for it exactly as long as it is open. -/
  state : ∃ stream, vigil.closed.streams[vigil.stream]? = some stream ∧
    stream.hasWriter = !vigil.isDiscovered ∧
    (vigil.closed.cluster.watchers.filter fun other => other.stream == vigil.stream) =
      (if vigil.isDiscovered then [] else [⟨vigil.context, vigil.stream⟩]) ∧
    (stream.hasReader = true → vigil.taken ++ stream.items = vigil.sent)
  /-- Nothing is sent any more from the time at which the context is cancelled. -/
  silent : ∀ early later, vigil.after = early ++ later →
    (vigil.begun.run (early.map .elsewhere)).isCancelled vigil.context = true →
    (vigil.begun.run (early.map .elsewhere)).collect (System.sentIn vigil.stream)
      (later.map .elsewhere) = []
  /-- The first change after that which is told to anybody closes the stream. -/
  closes : ∀ early happening later, vigil.after = early ++ happening :: later →
    (vigil.begun.run (early.map .elsewhere)).isCancelled vigil.context = true →
    (happening.tells (vigil.begun.run (early.map .elsewhere)).cluster.resources).isSome = true →
    vigil.isDiscovered = true

/-- Every watch ends with the first change that the feed tells when the watch is not live. -/
theorem ends_when_discovered : vigil.Ends := by
  rcases vigil.opened_hasFeed with ⟨feed, has⟩
  have watched := begun_watched has
  have keeps : System.KeepsSender ⟨vigil.context, vigil.stream⟩
      (feed.addWatcher ⟨vigil.context, vigil.stream⟩) { items := feed.replay } :=
    has.alone_addWatcher vigil.context
  rcases watched.lasts keeps vigil.after with ⟨lastFeed, lastStream, lasts⟩
  have writes : lastStream.hasWriter = !vigil.isDiscovered := lasts.hasWriter
  refine ⟨vigil.mirrors.opens, ⟨lastStream, lasts.watched.found, writes, ?_, ?_⟩, ?_, ?_⟩
  · have same : vigil.closed.cluster = lastFeed := lasts.watched.cluster_eq
    rw [same, lasts.keeps, writes]
    cases vigil.isDiscovered <;> rfl
  · intro reading
    rw [sent_begun has]
    exact (lasts.items reading).symm
  · intro early later split cancelled
    rcases watched.lasts keeps early with ⟨midFeed, midStream, reached⟩
    apply reached.watched.sent_of_dead
    rw [reached.watched.isLive_eq, cancelled, Bool.not_true, Bool.false_and]
  · intro early happening later split cancelled tells
    rw [isDiscovered, split]
    exact System.discovers_of_told cancelled tells

/-- A watch whose context is cancelled while nothing is told. -/
def quiet : Vigil where
  start := {}
  resources := []
  before := [.createContext]
  context := ⟨⟨0, 0⟩, []⟩
  after := [.cancel ⟨⟨0, 0⟩, []⟩ none]

/-- A cancelled watch need not have ended: its stream may be open, and its sender in the feed. -/
theorem cancelled_watch_stays_open :
    quiet.closed.isCancelled quiet.context = true ∧
      (quiet.closed.streams[quiet.stream]?.map (·.hasWriter)) = some true ∧
      quiet.closed.cluster.watchers = [⟨quiet.context, quiet.stream⟩] := by
  refine ⟨?_, ?_, ?_⟩ <;> decide +kernel

end Vigil

end Admission
