import Kourosh.Tun2socks.WellFormed

/-
  Where forwarded data goes.

  The table is keyed by the source port alone.

  Correctness is proven by:
    * `stream_eq_dst_of_sent`
-/

-- One Address A Port

namespace Kourosh.Tun2socks.Bridge

open Run
open Function

variable {s s' : Bridge}

def established (s : Bridge) (port : UInt16) : Bool :=
  match s.conns port with
  | none => false
  | some conn => !conn.connecting

def newestDst (s : Bridge) (port : UInt16) : Option SocketAddrV4 :=
  (s.newest port).map fun n => (s.flows n).key.dst

/-
  Data handled for an established port names the address of its last SYN, and so does the stream a
  connect task installs.
-/
def KeepsDestination (s : Bridge) : Event → Prop
| .packet bytes _ _ =>
  ∀ seg ∈ segmentOf bytes, seg.carriesData = true →
    s.established seg.sport = true → s.newestDst seg.sport = some seg.dst
| .connect f .install => s.newestDst (s.flows f).key.sport = some (s.flows f).key.dst
| _ => True

instance (s : Bridge) (e : Event) : Decidable (s.KeepsDestination e) :=
  match e with
  | .packet bytes _ _ => inferInstanceAs (Decidable (∀ seg ∈ segmentOf bytes, _))
  | .connect _ e =>
    match e with
    | .install => inferInstanceAs (Decidable (_ = some _))
    | .abort | .succeed | .store | .spawn _ | .synAck
    | .fail | .evict => inferInstanceAs (Decidable True)
  | .resume | .reader _ _ | .writer _ _ => inferInstanceAs (Decidable True)

structure Directed (s : Bridge) : Prop where
  conns : ∀ port conn, s.conns port = some conn →
    conn.connecting = false → s.newestDst port = some (s.flows conn.flow).channel.stream
  sender :
    ∀ seg off f, s.handler = .forwarding seg off (some f) → (s.flows f).channel.stream = seg.dst
  sent : ∀ f, ∀ chunk ∈ (s.flows f).channel.sent, (s.flows f).channel.stream = chunk.dst

lemma directed_init : Directed init where
  conns := nofun
  sender := nofun
  sent := nofun

-- Operations

namespace Directed

variable (hDirected : Directed s)

include hDirected

lemma setHandler
  (handler : Handler) (hSender : ∀ seg off f, handler = .forwarding seg off (some f) →
  (s.flows f).channel.stream = seg.dst) : Directed (s.setHandler handler) :=
  { hDirected with sender := hSender }

lemma stamp (f : Nat) (packet : TunPacket) : Directed (s.stamp f packet) := { hDirected with }

lemma withApps (apps : AppHistory) : Directed { s with apps } := { hDirected with }

lemma removeConn (port : UInt16) : Directed (s.removeConn port) :=
  { hDirected with
    conns := by
      intro port' conn hConn
      exact hDirected.conns port' conn (conns_of_removeConn hConn) }

end Directed

variable {f : Nat} {flow : Flow}

lemma newestDst_setFlow (hKey : flow.key = (s.flows f).key) (port : UInt16) :
  (s.setFlow f flow).newestDst port = s.newestDst port := by
  unfold newestDst
  congr 1
  funext n
  rw [key_setFlow hKey]

lemma stream_setFlow (hStream : flow.channel.stream = (s.flows f).channel.stream)
  (g : Nat) : ((s.setFlow f flow).flows g).channel.stream = (s.flows g).channel.stream := by
  by_cases hEq : g = f
  · subst hEq
    simp [setFlow, hStream]
  · simp [setFlow, hEq]

lemma Directed.setFlow (hDirected : Directed s)
  (hKey : flow.key = (s.flows f).key) (hStream : flow.channel.stream = (s.flows f).channel.stream)
  (hSent : ∀ chunk ∈ flow.channel.sent, (s.flows f).channel.stream = chunk.dst) :
  Directed (s.setFlow f flow) where
  conns := by
    intro port conn hConn hConnected
    rw [newestDst_setFlow hKey, stream_setFlow hStream]
    exact hDirected.conns port conn hConn hConnected
  sender := by
    intro seg off g hHandler
    rw [stream_setFlow hStream]
    exact hDirected.sender seg off g hHandler
  sent := by
    intro g chunk hChunk
    rw [stream_setFlow hStream]
    by_cases hEq : g = f
    · subst hEq
      simp only [Bridge.setFlow, update_self] at hChunk
      exact hSent chunk hChunk
    · simp only [Bridge.setFlow, update_of_ne hEq] at hChunk
      exact hDirected.sent g chunk hChunk

lemma Directed.keeps (hDirected : Directed s)
  (hKeeps : Flow.Keeps (s.flows f) flow) : Directed (s.setFlow f flow) := by
  apply hDirected.setFlow hKeeps.key hKeeps.stream
  rw [hKeeps.sent]
  exact hDirected.sent f

lemma Directed.accept (hWF : WellFormed s) (hDirected : Directed s)
  (seg : Segment) (isn : UInt32) (app : Nat) : Directed (s.accept seg isn app) where
  conns := by
    intro port conn hConn hConnected
    by_cases hPort : port = seg.sport
    · subst hPort
      simp only [Bridge.accept, update_self, Option.some.injEq] at hConn
      subst hConn
      cases hConnected
    · simp only [Bridge.accept, update_of_ne hPort] at hConn
      have hLt := (hWF.conns port conn hConn).1
      have hOld := hDirected.conns port conn hConn hConnected
      rw [flows_accept_of_ne (by omega), ← hOld]
      simp only [newestDst, Bridge.accept, update_of_ne hPort]
      apply Option.map_congr
      intro n hNewest
      have hN := (hWF.newest port n hNewest).1
      rw [update_of_ne (by omega)]
  sender := nofun
  sent := by
    intro f chunk hChunk
    by_cases hEq : f = s.count
    · subst hEq
      rw [flows_accept_self] at hChunk
      cases hChunk
    · rw [flows_accept_of_ne hEq] at hChunk ⊢
      exact hDirected.sent f chunk hChunk

attribute [local simp] Bridge.setFlow insertConn

lemma Directed.install (hWF : WellFormed s) (hDirected : Directed s)
  (hTask : (s.flows f).task = .stored)
  (hNewest : s.newestDst (s.flows f).key.sport = some (s.flows f).key.dst) (isn : UInt32) :
  Directed ((s.setFlow f (s.flows f).install).insertConn (s.flows f).key.sport
    { dataTx := some f, flow := f, isn := isn, connecting := false }) where
  conns := by
    intro port conn hConn hConnected
    have hSame := newestDst_setFlow (s.flows f).key_install port
    by_cases hPort : port = (s.flows f).key.sport
    · subst hPort
      simp only [insertConn, update_self, Option.some.injEq] at hConn
      subst hConn
      refine hSame.trans (hNewest.trans ?_)
      simp [Flow.install, Channel.new]
    · simp only [insertConn, update_of_ne hPort] at hConn
      have hOld := hDirected.conns port conn hConn hConnected
      have hInstalled := ((hWF.conns port conn hConn).2.2 hConnected).2
      have hNe : conn.flow ≠ f := by
        rintro rfl
        simp [Installed, hTask, ConnectTask.beforeInstall] at hInstalled
      refine hSame.trans (hOld.trans ?_)
      simp [hNe]
  sender := by
    intro seg off g hHandler
    rcases hWF.sender seg off _ hHandler with ⟨-, g', hTx, hInstalled⟩
    cases hTx
    have hNe : g ≠ f := by
      rintro rfl
      simp [Installed, hTask, ConnectTask.beforeInstall] at hInstalled
    have hOld := hDirected.sender seg off g hHandler
    simpa [hNe] using hOld
  sent := by
    intro g chunk hChunk
    by_cases hEq : g = f
    · subst hEq
      simp [Flow.install, Channel.new] at hChunk
    · simp only [insertConn, Bridge.setFlow, update_of_ne hEq] at hChunk ⊢
      exact hDirected.sent g chunk hChunk

-- Steps And Runs

lemma directed_step {e : Event} (hWF : WellFormed s) (hDirected : Directed s)
  (hOk : s.KeepsDestination e) (hStep : Stepped s e s') : Directed s' := by
  cases hStep with
  | skip apps => exact hDirected.withApps apps
  | panic | lose | finish => exact hDirected.setHandler _ (by simp)
  | close apps => exact (hDirected.withApps apps).removeConn _
  | refuse => exact { hDirected with }
  | repeatSyn apps => exact (hDirected.withApps apps).stamp _ _
  | pass apps | hold apps => exact (hDirected.withApps apps).setHandler _ (by simp)
  | @advance _ _ _ seg conn off apps hSeg hData hConn hConnected hIdle hAction =>
    have hSet : Directed ({ s with apps }.setFlow conn.flow
      ((s.flows conn.flow).storeAck seg.stop)) :=
      (hDirected.withApps apps).setFlow rfl rfl (hDirected.sent conn.flow)
    apply hSet.setHandler
    intro seg' off' f hHandler
    have hTx := ((hWF.conns _ _ hConn).2.2 hConnected).1
    rw [hTx] at hHandler
    cases hHandler
    -- the entry's stream and the segment both agree with
    -- the newest SYN
    have hStream := hDirected.conns _ _ hConn hConnected
    have hDst := hOk seg hSeg hData (by simp [established, hConn, hConnected])
    rw [hStream] at hDst
    simpa [setFlow, Flow.storeAck] using hDst
  | accept => exact hDirected.accept hWF _ _ _
  | @enqueue seg off f channel hHandler hSend =>
    rcases Channel.sent_trySend hSend with ⟨hStream, hSent⟩
    have hSet : Directed (s.setFlow f ((s.flows f).setChannel channel)) := by
      refine hDirected.setFlow rfl hStream ?_
      intro chunk hChunk
      rw [Flow.setChannel, hSent, List.mem_append, List.mem_singleton] at hChunk
      rcases hChunk with hOld | rfl
      · exact hDirected.sent f chunk hOld
      · exact hDirected.sender seg off f hHandler
    exact hSet.setHandler _ (by simp)
  | acknowledge => exact (hDirected.stamp _ _).setHandler _ (by simp)
  | work _ hWorks => exact hDirected.keeps hWorks.toKeeps
  | send _ _ hWorks => exact (hDirected.keeps hWorks.toKeeps).stamp _ _
  | install hTask => exact hDirected.install hWF hTask hOk _
  | evict _ _ hWorks => exact (hDirected.keeps hWorks.toKeeps).removeConn _

/-
  Destination integrity: along every run that uses a port for one address at a time, whatever is
  enqueued on a channel was sent to the address its stream was opened for.
-/
theorem stream_eq_dst_of_sent
    (s : Bridge)
    (hRun : Reaches step KeepsDestination init s)
    (f : Nat)
    (chunk : Chunk)
    (hSent : chunk ∈ (s.flows f).channel.sent) :
    (s.flows f).channel.stream = chunk.dst := by
  have hDirected : Directed s :=
    hRun.invariant_of wellFormed_of_reaches directed_init
      (fun hWF hDirected hOk hStep => directed_step hWF hDirected hOk (stepped_of_step hStep))
  exact hDirected.sent f chunk hSent

-- Two Addresses On One Port

/- Data to the connected address arrives on its stream. -/
theorem stream_eq_dst_of_sent_connectFirst : ∃ s, Reaches step KeepsDestination init s ∧
  ∃ chunk ∈ (s.flows 0).channel.sent, (s.flows 0).channel.stream = chunk.dst := by
  rcases exists_reaches step KeepsDestination init (fun s =>
    (s.flows 0).channel.sent = [⟨⟨⟨1, 1, 1, 1⟩, 443⟩, [65]⟩])
    (connectFirst ++ [.packet (fromApp ⟨1, 1, 1, 1⟩ 101 [65]).encode 0 0, .resume])
    (by decide +kernel) (by decide +kernel) with
    ⟨s, hRun, hSent⟩
  have hChunk : (⟨⟨⟨1, 1, 1, 1⟩, 443⟩, [65]⟩ : Chunk) ∈ (s.flows 0).channel.sent := by
    simp [of_decide_eq_true hSent]
  exact ⟨s, hRun, _, hChunk, stream_eq_dst_of_sent s hRun 0 _ hChunk⟩

/-
  Data that the app sends to 2.2.2.2 from the same port is written to the stream that was opened
  for 1.1.1.1.
-/
theorem sent_to_other_stream : ¬ ∀ s : Bridge, Reaches step Always init s →
  ∀ f, ∀ chunk ∈ (s.flows f).channel.sent, (s.flows f).channel.stream = chunk.dst := by
  intro hAll
  rcases exists_reaches step Always init (fun s =>
    (s.flows 0).channel.stream = ⟨⟨1, 1, 1, 1⟩, 443⟩ ∧
      (s.flows 0).channel.sent = [⟨⟨⟨2, 2, 2, 2⟩, 443⟩, [65]⟩])
    (connectFirst ++ [.packet (synFromApp ⟨2, 2, 2, 2⟩ 100).encode 8 1,
      .packet (fromApp ⟨2, 2, 2, 2⟩ 101 [65]).encode 0 1,
      .resume])
    (taken_always _ _ _) (by decide +kernel) with
    ⟨s, hRun, hEnd⟩
  rcases of_decide_eq_true hEnd with ⟨hStream, hSent⟩
  have hDst := hAll s hRun 0 _ (by rw [hSent]; exact List.mem_singleton_self _)
  rw [hStream] at hDst
  exact absurd hDst (by decide)

end Kourosh.Tun2socks.Bridge
