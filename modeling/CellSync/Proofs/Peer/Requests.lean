/-
What becomes of every pin that a client asks for.

A client that numbers its requests and never uses a number twice is told
of each of them in one of two ways. Either it is refused, by one closing
message with a code that says why, or it is told the life of one pin
(`Service.lifecycle_of_play`). So no request is answered twice or not at
all, and nothing comes after a closing message. What the host does for
others, and a shutdown, may come between any two messages.

The invariant is kept for all numbers at once, and each number has a fate
of its own (`Fate`): it was not used, or its request was refused, or it
was granted. Only the request itself changes which of these it is.
-/
import CellSync.Proofs.Peer.Lifecycle

namespace CellSync

variable {ι ρ σ : Type} {box : OutboxId} {number : UInt64}

-- ============================================================== refusals

/-- Whatever is wrong with a request that cannot be read has a code. -/
theorem Control.code_ne_nil_of_read {α : Type} {ofJson? : List UInt8 → Option α} {tx : Tx}
    {attr : String} {error : SessionError} (hread : read ofJson? tx attr = .error error) :
    error.code ≠ .nil := by
  unfold read at hread
  split at hread
  next cause hunwrap =>
    rw [← Except.error.inj hread]
    unfold unwrap at hunwrap
    split at hunwrap
    · split at hunwrap
      · rw [← Except.error.inj hunwrap]
        nofun
      · split at hunwrap
        · cases hunwrap
        · rw [← Except.error.inj hunwrap]
          nofun
    · rw [← Except.error.inj hunwrap]
      nofun
  · split at hread
    · cases hread
    · rw [← Except.error.inj hread]
      nofun

/-- Whether every refusal of a resolver says why. -/
def Resolver.Explains (resolver : Resolver ρ) : Prop :=
  ∀ directory target, resolver.resolve directory target ≠ .error .nil

/-- The directory in memory says why it refuses. -/
theorem Directory.explains : Directory.resolver.Explains := by
  intro d target hnil
  have hnil : d.resolve target = .error .nil := hnil
  unfold Directory.resolve at hnil
  split at hnil
  · cases hnil
  · cases hnil

/-- So does the check of a target. -/
theorem Target.code_ne_nil_of_validate {target : Target} {code : ErrorCode}
    (hvalidate : target.validate = .error code) : code ≠ .nil := by
  unfold validate at hvalidate
  split at hvalidate
  · split at hvalidate
    · cases hvalidate
    · rw [← Except.error.inj hvalidate]
      nofun
  · split at hvalidate
    · cases hvalidate
    · rw [← Except.error.inj hvalidate]
      nofun

/-- So does a host that does not open a pin. -/
theorem Host.code_ne_nil_of_screen {h : Host ρ σ} (hexplains : h.resolver.Explains)
    {who : Login.Checkpoint} {request : PinRequest} {error : SessionError}
    (hscreen : h.screen who number request = .error error) : error.code ≠ .nil := by
  unfold Host.screen at hscreen
  dsimp only at hscreen
  split at hscreen
  · rw [← Except.error.inj hscreen]
    nofun
  · split at hscreen
    next code hvalidate =>
      rw [← Except.error.inj hscreen]
      exact Target.code_ne_nil_of_validate hvalidate
    · split at hscreen
      next code hresolve =>
        rw [← Except.error.inj hscreen]
        rintro hnil
        have hnil : code = .nil := hnil
        rw [hnil] at hresolve
        exact hexplains _ _ hresolve
      · split at hscreen
        · rw [← Except.error.inj hscreen]
          nofun
        · cases hscreen

/-- A request is refused with a code. -/
theorem code_ne_nil_of_refused {h : Host ρ σ} (hexplains : h.resolver.Explains) {c : Connection}
    {tx : Tx} {kind : Kind} {code : ErrorCode} (hrefused : Refused h c tx kind code)
    (hkind : tx.info.kind = .pinRequest) : kind = .state ∧ code ≠ .nil := by
  cases hrefused with
  | kind hother => simp [hkind] at hother
  | number _ _ => exact ⟨rfl, nofun⟩
  | content _ hread => exact ⟨rfl, Control.code_ne_nil_of_read hread⟩
  | request _ _ hscreen => exact ⟨rfl, Host.code_ne_nil_of_screen hexplains hscreen⟩
  | unknown hother _ => simp [hkind] at hother
  | commit hother _ => simp [hkind] at hother

-- ============================================================== all events

/-- What has become of the requests with a number among those that were made, and
what was told of it. -/
inductive Fate (hub : Hub) (box : OutboxId) (number : UInt64) (asked : List Tx) :
    List Mark → Prop where
  | unasked (hnot : ∀ tx ∈ asked, tx.info.contextId ≠ number) (hsilent : Silent hub box number) :
      Fate hub box number asked []
  | refused {tx : Tx} {code : ErrorCode} (hmem : tx ∈ asked) (hnumber : tx.info.contextId = number)
      (hsilent : Silent hub box number) (hcode : code ≠ .nil) :
      Fate hub box number asked [(.closed, code)]
  | granted {tx : Tx} {request : PinRequest} {marks : List Mark} (hmem : tx ∈ asked)
      (hnumber : tx.info.contextId = number)
      (hread : Control.read PinRequest.ofJson? tx Control.pinAttr = .ok request)
      (hfollows : Follows hub box number request.mode marks) : Fate hub box number asked marks

namespace Fate

variable {h h' : Host ρ σ} {posts : List Post} {asked : List Tx} {marks : List Mark}

/-- What is told of a number later goes on from what was told of it before. -/
theorem spares (hfate : Fate h.hub box number asked marks)
    (hspares : Spares box number h posts h') :
    Fate h'.hub box number asked (marks ++ marksOn box number posts) := by
  cases hfate with
  | unasked hnot hsilent =>
      obtain ⟨hsilent', hnone⟩ := hspares.silent hsilent
      rw [hnone]
      exact .unasked hnot hsilent'
  | refused hmem hnumber hsilent hcode =>
      obtain ⟨hsilent', hnone⟩ := hspares.silent hsilent
      rw [hnone]
      exact .refused hmem hnumber hsilent' hcode
  | granted hmem hnumber hread hfollows =>
      exact .granted hmem hnumber hread (hspares.follows _ _ hfollows)

/-- Requests with other numbers change nothing. -/
theorem mono (hfate : Fate h.hub box number asked marks) {more : List Tx}
    (hmore : ∀ tx ∈ more, tx.info.contextId ≠ number) :
    Fate h.hub box number (asked ++ more) marks := by
  cases hfate with
  | unasked hnot hsilent =>
      refine .unasked (fun tx hmem => ?_) hsilent
      rcases List.mem_append.mp hmem with hmem | hmem
      · exact hnot tx hmem
      · exact hmore tx hmem
  | refused hmem hnumber hsilent hcode =>
      exact .refused (List.mem_append_left _ hmem) hnumber hsilent hcode
  | granted hmem hnumber hread hfollows =>
      exact .granted (List.mem_append_left _ hmem) hnumber hread hfollows

/-- A request with a number that was not used before. -/
theorem ask {c c' : Connection} {clock : ClockTime} {held : List PinId} {tx : Tx}
    {given : Option PinId}
    (hfresh : h.hub.Fresh) (hexplains : h.resolver.Explains)
    (hsilent : Silent h.hub c.outbox tx.info.contextId) (hkind : tx.info.kind = .pinRequest)
    (hmem : tx ∈ asked) (hhandled : c.Handled clock h held tx given posts c' h') :
    Fate h'.hub c.outbox tx.info.contextId asked (marksOn c.outbox tx.info.contextId posts) := by
  cases hhandled with
  | refused hrefused =>
      obtain ⟨rfl, hcode⟩ := code_ne_nil_of_refused hexplains hrefused hkind
      have htold : ∀ code, marksOn c.outbox tx.info.contextId
          [c.answer held (.ofStatus .state tx.info.contextId .closed code)]
            = [(.closed, code)] := by
        intro code
        simp [marksOn, Post.about, Connection.answer, Tx.ofStatus, Tx.mark]
      rw [htold]
      exact .refused hmem rfl (fun id p hp => hsilent id p hp) hcode
  | passed _ hread hscreen hopen hclosed =>
      obtain ⟨_, -, hsession⟩ := Host.screen_eq_ok hscreen
      have hfollows := follows_openPin hfresh hsilent hscreen
      rw [hopen] at hfollows
      have hspares : Spares c.outbox tx.info.contextId _ [] _ := .stirs (.single (.drop hclosed))
      have hdropped := hspares.follows _ _ hfollows
      rw [show marksOn c.outbox tx.info.contextId [] = [] from rfl, List.append_nil] at hdropped
      exact .granted hmem rfl hread hdropped
  | opened _ _ hread hscreen hopen _ =>
      have hfollows := follows_openPin hfresh hsilent hscreen
      rw [hopen] at hfollows
      exact .granted hmem rfl hread hfollows
  | closed hother _ => simp [hkind] at hother
  | committed hother => simp [hkind] at hother

end Fate

namespace Service

variable [DecidableEq ι] {s : Service ι ρ σ} {i : ι}

/-- The message by which the client of a connection asks for a pin. -/
def asks? (i : ι) : Event ι ρ → Option Tx
  | .message j _ tx => if j = i ∧ tx.info.kind = .pinRequest then some tx else none
  | _ => none

/-- All messages by which the client of a connection asks for pins. -/
def requests (i : ι) (events : List (Event ι ρ)) : List Tx := events.filterMap (asks? i)

/-- A request for a pin comes as a message of that kind. -/
theorem asks?_eq_some {e : Event ι ρ} {tx : Tx} (h : asks? i e = some tx) :
    ∃ clock, e = .message i clock tx ∧ tx.info.kind = .pinRequest := by
  unfold asks? at h
  split at h
  next j clock m =>
    split at h
    next hboth =>
      obtain ⟨rfl, hkind⟩ := hboth
      rw [← Option.some.inj h]
      exact ⟨clock, rfl, hkind⟩
    · cases h
  · cases h

/-- Whether an event is that the client of a connection closes a pin. -/
def closes (i : ι) : Event ι ρ → Bool
  | .message j _ tx => j = i && tx.info.kind = .pinClose
  | _ => false

/-- The messages of kind state that a connection's mailbox gets for a number at an
event, without the answer to a pin's closing that there is no such pin. -/
def heardAt (s : Service ι ρ σ) (i : ι) (number : UInt64) (e : Event ι ρ) : List Tx :=
  ((relevant (closes i e) (s.told e)).filter (·.about (s.connections i).outbox number)).map (·.tx)

/-- What a connection's mailbox gets for a number at some events. -/
def heard (s : Service ι ρ σ) (i : ι) (number : UInt64) : List (Event ι ρ) → List Tx
  | [] => []
  | e :: events => s.heardAt i number e ++ (s.step e).heard i number events

/-- A connection that no session writes to yet, on any host. -/
structure Joined (s : Service ι ρ σ) (i : ι) : Prop where
  fresh : s.host.hub.Fresh
  explains : s.host.resolver.Explains
  apart : ∀ j, j ≠ i → (s.connections j).outbox ≠ (s.connections i).outbox
  unused : ∀ id p, s.host.hub.pin? id = some p → p.outbox ≠ (s.connections i).outbox

/-- What the requests so far of a connection have come to. -/
structure Accounted (s : Service ι ρ σ) (i : ι) (asked : List Tx)
    (marks : UInt64 → List Mark) : Prop where
  fresh : s.host.hub.Fresh
  explains : s.host.resolver.Explains
  apart : ∀ j, j ≠ i → (s.connections j).outbox ≠ (s.connections i).outbox
  fate : ∀ number, Fate s.host.hub (s.connections i).outbox number asked (marks number)

/-- The marks of what is heard are those of the posts for that number. -/
theorem marks_heardAt (s : Service ι ρ σ) (i : ι) (number : UInt64) (e : Event ι ρ) :
    (s.heardAt i number e).map Tx.mark
      = marksOn (s.connections i).outbox number (relevant (closes i e) (s.told e)) := by
  rw [heardAt, List.map_map]
  rfl

/-- An event that has nothing to do with a number, or moves its session on. -/
theorem spares_step (hfresh : s.host.hub.Fresh)
    (hapart : ∀ j, j ≠ i → (s.connections j).outbox ≠ (s.connections i).outbox) {e : Event ι ρ}
    (hstate : ∀ clock tx, e = .message i clock tx → tx.info.kind ≠ .state)
    (hnumber : ∀ tx, asks? i e = some tx → tx.info.contextId ≠ number) :
    Spares (s.connections i).outbox number s.host (relevant (closes i e) (s.told e))
      (s.step e).host := by
  cases e with
  | message j clock tx =>
      have hpruned := (s.connections j).stirs_prune s.host
      have hhandled := (s.connections j).handled_dispatch clock s.host tx
      have hfresh' := (Sequel.stirs hpruned).fresh hfresh
      by_cases hj : j = i
      · subst hj
        have hcloses : closes j (.message j clock tx : Event ι ρ)
            = decide (tx.info.kind = .pinClose) := by simp [closes]
        rw [hcloses]
        refine (Spares.stirs hpruned).trans (spares_own hfresh' (hstate clock tx rfl) ?_ hhandled)
        intro hkind
        exact hnumber tx (if_pos ⟨rfl, hkind⟩)
      · have hcloses : closes i (.message j clock tx : Event ι ρ) = false := by simp [closes, hj]
        rw [hcloses, relevant_false]
        have hbox : ((s.connections j).prune s.host).1.outbox ≠ (s.connections i).outbox :=
          hapart j hj
        exact (Spares.stirs hpruned).trans (.others hfresh' hbox hhandled)
  | departure j =>
      rw [show closes i _ = false from rfl, relevant_false]
      exact .stirs ((s.connections j).stirs_teardown s.host)
  | commit clock who tx =>
      rw [show closes i _ = false from rfl, relevant_false]
      exact .stirs (s.host.stirs_commit clock who tx)
  | shutdown =>
      rw [show closes i _ = false from rfl, relevant_false]
      exact .stirs s.host.stirs_shutdown
  | carry box f => exact .of_pins (fun _ _ hp _ => hp) rfl
  | edit directory => exact .of_pins (fun _ _ hp _ => hp) rfl

/-- A request is made with a number that was not used before. -/
theorem Accounted.fate_ask {asked : List Tx} {marks : UInt64 → List Mark}
    (h : s.Accounted i asked marks) {e : Event ι ρ} {tx : Tx} (hasks : asks? i e = some tx)
    (hnew : ∀ old ∈ asked, old.info.contextId ≠ tx.info.contextId) :
    Fate (s.step e).host.hub (s.connections i).outbox tx.info.contextId
      (asked ++ (asks? i e).toList)
      (marks tx.info.contextId ++ marksOn (s.connections i).outbox tx.info.contextId
        (relevant (closes i e) (s.told e))) := by
  obtain ⟨clock, rfl, hkind⟩ := asks?_eq_some hasks
  have hcloses : closes i (.message i clock tx : Event ι ρ) = false := by simp [closes, hkind]
  have hmem : tx ∈ asked ++ (asks? i (.message i clock tx : Event ι ρ)).toList :=
    List.mem_append_right _ (Option.mem_toList.mpr hasks)
  have hpruned := (s.connections i).stirs_prune s.host
  have hsequel := Sequel.stirs hpruned
  have hexplains : ((s.connections i).prune s.host).2.resolver.Explains := by
    rw [hsequel.resolver_eq]
    exact h.explains
  rw [hcloses, relevant_false]
  have hfate := h.fate tx.info.contextId
  generalize marks tx.info.contextId = before at hfate ⊢
  cases hfate with
  | unasked _ hsilent =>
      have hsilent' := ((Spares.stirs hpruned).silent hsilent).1
      exact Fate.ask (c := ((s.connections i).prune s.host).1) (hsequel.fresh h.fresh) hexplains
        hsilent' hkind hmem ((s.connections i).handled_dispatch clock s.host tx)
  | refused hold hother _ _ => exact absurd hother (hnew _ hold)
  | granted hold hother _ _ => exact absurd hother (hnew _ hold)

/-- An event accounts for the requests in it, and keeps those before accounted for. -/
theorem Accounted.step {asked : List Tx} {marks : UInt64 → List Mark}
    (h : s.Accounted i asked marks) {e : Event ι ρ}
    (hstate : ∀ clock tx, e = .message i clock tx → tx.info.kind ≠ .state)
    (hnew : ∀ tx, asks? i e = some tx → ∀ old ∈ asked, old.info.contextId ≠ tx.info.contextId) :
    (s.step e).Accounted i (asked ++ (asks? i e).toList)
      (fun number => marks number ++ (s.heardAt i number e).map Tx.mark) := by
  have hsequel := s.sequel_step e
  refine ⟨hsequel.fresh h.fresh, ?_, fun j hj => ?_, fun number => ?_⟩
  · rw [hsequel.resolver_eq]
    exact h.explains
  · rw [outbox_connections, outbox_connections]
    exact h.apart j hj
  · rw [outbox_connections, marks_heardAt]
    by_cases hnumber : ∀ tx, asks? i e = some tx → tx.info.contextId ≠ number
    · refine ((h.fate number).spares (spares_step h.fresh h.apart hstate hnumber)).mono ?_
      exact fun tx hmem => hnumber tx (Option.mem_toList.mp hmem)
    · rw [not_forall] at hnumber
      obtain ⟨tx, hnumber⟩ := hnumber
      rw [Classical.not_imp, Decidable.not_not] at hnumber
      obtain ⟨hasks, rfl⟩ := hnumber
      exact h.fate_ask hasks (hnew tx hasks)

/-- So do events in a row, if no number is used twice. -/
theorem Accounted.play {asked : List Tx} {marks : UInt64 → List Mark}
    (h : s.Accounted i asked marks) {events : List (Event ι ρ)}
    (hstate : ∀ clock tx, .message i clock tx ∈ events → tx.info.kind ≠ .state)
    (hnumbers : ((asked ++ requests i events).map (·.info.contextId)).Nodup) :
    (s.play events).Accounted i (asked ++ requests i events)
      (fun number => marks number ++ (s.heard i number events).map Tx.mark) := by
  induction events generalizing s asked marks with
  | nil =>
      simp only [heard, requests, List.filterMap_nil, List.map_nil, List.append_nil]
      exact h
  | cons e events ih =>
      have hsplit : asked ++ requests i (e :: events)
          = (asked ++ (asks? i e).toList) ++ requests i events := by
        rw [requests, List.filterMap_cons]
        cases asks? i e <;> simp [requests]
      rw [hsplit] at hnumbers ⊢
      have hfirst := h.step (e := e)
        (fun clock tx heq => hstate clock tx (by rw [heq]; exact List.mem_cons_self)) (by
          intro tx hasks old hold
          rw [hasks, List.map_append, List.map_append, List.append_assoc] at hnumbers
          refine (List.nodup_append.mp hnumbers).2.2 _ (List.mem_map_of_mem hold) _ ?_
          exact List.mem_append_left _ (List.mem_singleton_self _))
      have hrest := ih hfirst (fun clock tx hmem => hstate clock tx (List.mem_cons_of_mem e hmem))
        hnumbers
      simp only [heard, List.map_append, ← List.append_assoc]
      exact hrest

omit [DecidableEq ι] in
/-- When a connection is new nothing has been asked, and nothing told. -/
theorem Joined.accounted (h : s.Joined i) : s.Accounted i [] fun _ => [] :=
  ⟨h.fresh, h.explains, h.apart, fun _ =>
    .unasked (fun _ hmem => absurd hmem List.not_mem_nil)
      fun id p hpin hanswers => h.unused id p hpin hanswers.1⟩

/-- The client of a connection asks for pins, closes pins and makes commits, never
with a number twice for a pin; between any two messages other clients do what they
like, and somebody may shut the host down. Of each request the client is told
either that it is refused, once and with a code that says why, or the lifecycle
of the mode that it asked for; and nothing comes after a closing message. -/
theorem lifecycle_of_play (hjoined : s.Joined i) {events : List (Event ι ρ)}
    (hkinds : ∀ clock tx, .message i clock tx ∈ events → tx.info.kind ≠ .state)
    (hnumbers : ((requests i events).map (·.info.contextId)).Nodup) {tx : Tx}
    (hmem : tx ∈ requests i events) :
    ((∃ code, code ≠ .nil
          ∧ (s.heard i tx.info.contextId events).map Tx.mark = [(.closed, code)])
        ∨ ∃ request, Control.read PinRequest.ofJson? tx Control.pinAttr = .ok request
          ∧ (s.heard i tx.info.contextId events).map Tx.mark ∈ request.mode.lifecycle)
      ∧ (s.heard i tx.info.contextId events).Pairwise fun m _ => m.info.status ≠ .closed := by
  have haccounted := hjoined.accounted.play hkinds (by rwa [List.nil_append])
  have hfate := haccounted.fate tx.info.contextId
  rw [List.nil_append, List.nil_append] at hfate
  have hpairwise : ∀ {out : List Tx},
      (out.map Tx.mark).Pairwise (fun mark _ => mark.1 ≠ .closed) →
        out.Pairwise fun m _ => m.info.status ≠ .closed := List.pairwise_map.mp
  generalize hheard : (s.heard i tx.info.contextId events).map Tx.mark = marks at hfate
  cases hfate with
  | unasked hnot _ => exact absurd rfl (hnot tx hmem)
  | @refused _ code _ _ _ hcode =>
      refine ⟨.inl ⟨code, hcode, rfl⟩, hpairwise ?_⟩
      rw [hheard]
      exact List.pairwise_singleton _ _
  | @granted other request _ hother hnumber hread hfollows =>
      have hsame : other = tx := List.inj_on_of_nodup_map hnumbers hother hmem hnumber
      rw [hsame] at hread
      refine ⟨.inr ⟨request, hread, hfollows.word⟩, hpairwise ?_⟩
      rw [hheard]
      exact SyncMode.pairwise_of_mem_lifecycle hfollows.word

/-- A pin is opened, another client makes a commit, and the host is shut down. -/
def visit : List (Event Bool Directory) :=
  [.message true (.after 1 0) asking, .message false (.after 1 0) World.greeting, .shutdown]

/-- The pin is up to date at once, as there are no commits. -/
theorem marks_heardAt_asking :
    (pair.heardAt true 7 (.message true (.after 1 0) asking)).map Tx.mark = [(.synced, .nil)] := by
  have hscreen : pair.host.screen World.someone 7 World.asking.request
      = .ok ⟨7, .ofWord 1, [], .maintain, .notStarted, .nil, none, []⟩ := rfl
  have htold : pair.told (.message true (.after 1 0) asking)
      = pair.host.openPosts 1 World.someone 7 World.asking.request := by
    show Connection.openPosts ⟨World.someone, 1, []⟩ pair.host [] asking = _
    unfold Connection.openPosts
    dsimp only
    rw [if_neg (by decide), read_asking]
    dsimp only
    rw [show asking.info.contextId = 7 from rfl, hscreen]
  rw [marks_heardAt, htold, Host.openPosts_of_screen hscreen]
  decide

/-- The client of the example hears one lifecycle: its pin is up to date, and then closed. -/
theorem lifecycle_of_play_visit : pair.Joined true ∧ asking ∈ requests true visit
    ∧ (pair.heard true 7 visit).map Tx.mark ∈ SyncMode.maintain.lifecycle
    ∧ (pair.heard true 7 visit).Pairwise fun m _ => m.info.status ≠ .closed := by
  have hjoined : pair.Joined true := by
    refine ⟨⟨nofun, nofun⟩, Directory.explains, fun j hj => ?_, fun id p hpin => ?_⟩
    · rw [Bool.eq_false_iff.mpr hj]
      decide
    · have hnone : (none : Option Pinned) = some p := hpin
      cases hnone
  have hrequests : requests true visit = [asking] := by
    simp [requests, visit, asks?, show asking.info.kind = .pinRequest from rfl]
  have hmem : asking ∈ requests true visit := by
    rw [hrequests]
    exact List.mem_singleton_self _
  have hnumbers : ((requests true visit).map (·.info.contextId)).Nodup := by
    rw [hrequests]
    exact List.nodup_singleton _
  have hkinds : ∀ clock tx, Event.message true clock tx ∈ visit → tx.info.kind ≠ .state := by
    intro clock tx hevent
    rcases List.mem_cons.mp hevent with heq | hevent
    · injection heq with _ _ heq
      rw [heq]
      decide
    · simp at hevent
  obtain ⟨htold, hlast⟩ := lifecycle_of_play hjoined hkinds hnumbers hmem
  refine ⟨hjoined, hmem, ?_, hlast⟩
  rcases htold with ⟨code, -, hrefused⟩ | ⟨request, hread, hword⟩
  · have hfront : ∃ rest, (pair.heard true 7 visit).map Tx.mark = (.synced, .nil) :: rest := by
      rw [visit, heard, List.map_append, marks_heardAt_asking]
      exact ⟨_, rfl⟩
    obtain ⟨rest, hfront⟩ := hfront
    cases hfront.symm.trans hrefused
  · rw [← Except.ok.inj (read_asking.symm.trans hread)] at hword
    exact hword

end Service

end CellSync
