import Kourosh.Tun2socks.Transitions

/-
  Facts about every state of the bridge, whatever its packets and its schedule.

  An entry belongs to an accepted flow of its port, and once it is connected it feeds that flow's
  own channel.
-/

-- The Invariant

namespace Kourosh.Tun2socks.Bridge

open Run
open Function

variable {s s' : Bridge}

attribute [local simp] setFlow

lemma conns_of_removeConn {port port' : UInt16} {conn : TcpConn}
  (hConn : (s.removeConn port).conns port' = some conn) : s.conns port' = some conn := by
  by_cases hPort : port' = port
  · subst hPort
    simp [removeConn] at hConn
  · simp only [removeConn, update_of_ne hPort] at hConn
    exact hConn

def Installed (s : Bridge) (f : Nat) : Prop := (s.flows f).task.beforeInstall = false

def Backs (s : Bridge) (port : UInt16) (conn : TcpConn) : Prop :=
  conn.flow < s.count ∧ (s.flows conn.flow).key.sport = port ∧
    (conn.connecting = false → conn.dataTx = some conn.flow ∧ s.Installed conn.flow)

structure WellFormed (s : Bridge) : Prop where
  fresh : ∀ f, s.count ≤ f → s.flows f = .blank
  newest : ∀ port n, s.newest port = some n → n < s.count ∧ (s.flows n).key.sport = port
  accepted : ∀ f, f < s.count → ∃ n, s.newest (s.flows f).key.sport = some n
  conns : ∀ port conn, s.conns port = some conn → s.Backs port conn
  sender : ∀ seg off tx, s.handler = .forwarding seg off tx →
    off ≤ seg.payload.length ∧ ∃ f, tx = some f ∧ s.Installed f
  unsent : ∀ f, (s.flows f).task.beforeInstall = true → (s.flows f).channel.sent = []

lemma wellFormed_init : WellFormed init where
  fresh := fun _ _ => rfl
  newest := nofun
  accepted := by
    intro f hLt
    exact absurd hLt (Nat.not_lt_zero f)
  conns := nofun
  sender := nofun
  unsent := fun _ _ => rfl

namespace WellFormed

variable {f : Nat}

lemma lt_count (hWF : WellFormed s) (hLive : s.flows f ≠ .blank) : f < s.count := by
  by_contra hGe
  exact hLive (hWF.fresh f (by omega))

lemma lt_count_of_stored
  (hWF : WellFormed s) (hTask : (s.flows f).task = .stored) : f < s.count := by
  apply hWF.lt_count
  intro hBlank
  rw [hBlank] at hTask
  cases hTask

lemma lt_count_of_installed (hWF : WellFormed s) (hInstalled : s.Installed f) : f < s.count := by
  apply hWF.lt_count
  intro hBlank
  rw [Installed, hBlank] at hInstalled
  cases hInstalled

-- Operations

section

variable (hWF : WellFormed s)

include hWF

lemma setHandler
  (handler : Handler) (hSender : ∀ seg off tx, handler = .forwarding seg off tx → off ≤
  seg.payload.length ∧ ∃ f, tx = some f ∧ s.Installed f) : WellFormed (s.setHandler handler) :=
  { hWF with sender := hSender }

lemma stamp (f : Nat) (packet : TunPacket) : WellFormed (s.stamp f packet) := { hWF with }

lemma withApps (apps : AppHistory) : WellFormed { s with apps } := { hWF with }

lemma removeConn (port : UInt16) : WellFormed (s.removeConn port) :=
  { hWF with
    conns := by
      intro port' conn hConn
      exact hWF.conns port' conn (conns_of_removeConn hConn) }

end

lemma insertConn {port : UInt16} {conn : TcpConn} (hWF : WellFormed s)
  (hBacks : s.Backs port conn) : WellFormed (s.insertConn port conn) :=
  { hWF with
    conns := by
      intro port' conn' hConn
      by_cases hPort : port' = port
      · subst hPort
        simp only [Bridge.insertConn, update_self, Option.some.injEq] at hConn
        subst hConn
        exact hBacks
      · simp only [Bridge.insertConn, update_of_ne hPort] at hConn
        exact hWF.conns port' conn' hConn }

end WellFormed

variable {f : Nat} {flow : Flow}

lemma key_setFlow (hKey : flow.key = (s.flows f).key) (g : Nat) :
  ((s.setFlow f flow).flows g).key = (s.flows g).key := by
  by_cases hEq : g = f
  · subst hEq
    simp [hKey]
  · simp [hEq]

lemma installed_setFlow {g : Nat} (hKept : s.Installed f → flow.task.beforeInstall = false)
  (hInstalled : s.Installed g) : (s.setFlow f flow).Installed g := by
  by_cases hEq : g = f
  · subst hEq
    simpa [Installed] using hKept hInstalled
  · simpa [Installed, hEq] using hInstalled

lemma WellFormed.setFlow (hWF : WellFormed s) (hLt : f < s.count)
  (hKey : flow.key = (s.flows f).key) (hKept : s.Installed f → flow.task.beforeInstall = false)
  (hUnsent : flow.task.beforeInstall → flow.channel.sent = []) :
  WellFormed (s.setFlow f flow) where
  fresh := by
    intro g hGe
    have hNe : g ≠ f := by
      rintro rfl
      exact absurd hLt (Nat.not_lt.mpr hGe)
    simpa [Bridge.setFlow, hNe] using hWF.fresh g hGe
  newest := by
    intro port n hNewest
    rw [key_setFlow hKey]
    exact hWF.newest port n hNewest
  accepted := by
    intro g hG
    rw [key_setFlow hKey]
    exact hWF.accepted g hG
  conns := by
    intro port conn hConn
    have hBacks := hWF.conns port conn hConn
    refine ⟨hBacks.1, ?_, ?_⟩
    · rw [key_setFlow hKey]
      exact hBacks.2.1
    · intro hConnected
      have hTx := hBacks.2.2 hConnected
      exact ⟨hTx.1, installed_setFlow hKept hTx.2⟩
  sender := by
    intro seg off tx hHandler
    rcases hWF.sender seg off tx hHandler with ⟨hOff, g, hTx, hInstalled⟩
    exact ⟨hOff, g, hTx, installed_setFlow hKept hInstalled⟩
  unsent := by
    intro g hBefore
    by_cases hEq : g = f
    · subst hEq
      simp only [Bridge.setFlow, update_self] at hBefore ⊢
      exact hUnsent hBefore
    · simp only [Bridge.setFlow, update_of_ne hEq] at hBefore ⊢
      exact hWF.unsent g hBefore

lemma WellFormed.works (hWF : WellFormed s)
  (hWorks : Flow.Works (s.flows f) flow) : WellFormed (s.setFlow f flow) := by
  apply hWF.setFlow (hWF.lt_count hWorks.live) hWorks.key hWorks.installed
  intro hBefore
  rw [hWorks.sent]
  apply hWF.unsent
  cases hOld : (s.flows f).task.beforeInstall with
  | true => rfl
  | false =>
    rw [hWorks.installed hOld] at hBefore
    cases hBefore

@[simp] lemma flows_accept_self (s : Bridge) (seg : Segment) (isn : UInt32)
  (app : Nat) : (s.accept seg isn app).flows s.count = .spawned (.ofSyn seg isn app) :=
  update_self ..

lemma flows_accept_of_ne (hNe : f ≠ s.count) (seg : Segment) (isn : UInt32) (app : Nat) :
  (s.accept seg isn app).flows f = s.flows f := update_of_ne hNe ..

lemma WellFormed.accept (hWF : WellFormed s)
  (seg : Segment) (isn : UInt32) (app : Nat) : WellFormed (s.accept seg isn app) where
  fresh := by
    intro f hGe
    have hLt : s.count < f := hGe
    rw [flows_accept_of_ne (by omega)]
    exact hWF.fresh f (by omega)
  newest := by
    intro port n hNewest
    by_cases hPort : port = seg.sport
    · subst hPort
      simp only [Bridge.accept, update_self, Option.some.injEq] at hNewest
      subst hNewest
      rw [flows_accept_self]
      exact ⟨Nat.lt_succ_self _, rfl⟩
    · simp only [Bridge.accept, update_of_ne hPort] at hNewest
      rcases hWF.newest port n hNewest with ⟨hLt, hSport⟩
      rw [flows_accept_of_ne (by omega)]
      exact ⟨Nat.lt_succ_of_lt hLt, hSport⟩
  accepted := by
    intro f hLt
    by_cases hEq : f = s.count
    · subst hEq
      rw [flows_accept_self]
      exact ⟨s.count, update_self ..⟩
    · have hOld : f < s.count := Nat.lt_of_le_of_ne (Nat.le_of_lt_succ hLt) hEq
      rw [flows_accept_of_ne hEq]
      by_cases hPort : (s.flows f).key.sport = seg.sport
      · rw [hPort]
        exact ⟨s.count, update_self ..⟩
      · simp only [Bridge.accept, update_of_ne hPort]
        exact hWF.accepted f hOld
  conns := by
    intro port conn hConn
    by_cases hPort : port = seg.sport
    · subst hPort
      simp only [Bridge.accept, update_self, Option.some.injEq] at hConn
      subst hConn
      refine ⟨Nat.lt_succ_self _, ?_, ?_⟩
      · rw [flows_accept_self]
        rfl
      · exact nofun
    · simp only [Bridge.accept, update_of_ne hPort] at hConn
      rcases hWF.conns port conn hConn with ⟨hLt, hSport, hTx⟩
      rw [Backs, Installed, flows_accept_of_ne (by omega)]
      exact ⟨Nat.lt_succ_of_lt hLt, hSport, hTx⟩
  sender := nofun
  unsent := by
    intro f hBefore
    by_cases hEq : f = s.count
    · subst hEq
      rw [flows_accept_self]
      rfl
    · rw [flows_accept_of_ne hEq] at hBefore ⊢
      exact hWF.unsent f hBefore

-- Steps And Runs

lemma off_le_of_segmentAction {expected : UInt32} {seg : Segment} {off : Nat}
  (hAction : segmentAction expected seg = .forward off) : off ≤ seg.payload.length := by
  unfold segmentAction at hAction
  simp only at hAction
  split at hAction
  · cases hAction
    exact Nat.zero_le _
  · split at hAction
    · split at hAction
      · cases hAction
      next hShort =>
        cases hAction
        omega
    · cases hAction

lemma wellFormed_step
  {e : Event} (hWF : WellFormed s) (hStep : Stepped s e s') : WellFormed s' := by
  cases hStep with
  | skip apps => exact hWF.withApps apps
  | panic | lose | finish => exact hWF.setHandler _ (by simp)
  | close apps => exact (hWF.withApps apps).removeConn _
  | refuse => exact { hWF with }
  | repeatSyn apps => exact (hWF.withApps apps).stamp _ _
  | pass apps | hold apps => exact (hWF.withApps apps).setHandler _ (by simp)
  | @advance _ _ _ seg conn off apps hSeg hData hConn hConnected hIdle hAction =>
    rcases hWF.conns _ _ hConn with ⟨hLt, -, hTx⟩
    rcases hTx hConnected with ⟨hDataTx, hInstalled⟩
    have hSet : WellFormed ({ s with apps }.setFlow conn.flow
      ((s.flows conn.flow).storeAck seg.stop)) :=
      (hWF.withApps apps).setFlow hLt rfl id (hWF.unsent conn.flow)
    apply hSet.setHandler
    rintro seg' off' tx ⟨⟩
    refine ⟨off_le_of_segmentAction hAction, conn.flow, hDataTx, ?_⟩
    simpa [Installed, Flow.storeAck] using hInstalled
  | accept => exact hWF.accept _ _ _
  | @enqueue _ _ f channel hHandler =>
    rcases hWF.sender _ _ _ hHandler with ⟨-, g, hTx, hInstalled⟩
    cases hTx
    have hSet : WellFormed (s.setFlow f ((s.flows f).setChannel channel)) := by
      refine hWF.setFlow (hWF.lt_count_of_installed hInstalled) rfl id ?_
      intro hBefore
      exact absurd (hInstalled.symm.trans hBefore) (by decide)
    exact hSet.setHandler _ (by simp)
  | acknowledge => exact (hWF.stamp _ _).setHandler _ (by simp)
  | work _ hWorks => exact hWF.works hWorks
  | send _ _ hWorks => exact (hWF.works hWorks).stamp _ _
  | @install f hTask =>
    have hLt := hWF.lt_count_of_stored hTask
    have hSet : WellFormed (s.setFlow f (s.flows f).install) := by
      refine hWF.setFlow hLt rfl (fun _ => rfl) ?_
      exact nofun
    apply hSet.insertConn
    refine ⟨hLt, ?_, ?_⟩
    · simp [Flow.install]
    · intro _
      refine ⟨rfl, ?_⟩
      simp [Installed, Flow.install, ConnectTask.beforeInstall]
  | evict _ _ hWorks => exact (hWF.works hWorks).removeConn _

lemma wellFormed_of_reaches
  {ok : Bridge → Event → Prop} (hRun : Reaches step ok init s) : WellFormed s :=
  hRun.invariant wellFormed_init (fun hWF _ hStep => wellFormed_step hWF (stepped_of_step hStep))

-- Segments Of An App

def appIp : Ipv4Addr := ⟨10, 0, 0, 2⟩

def fromApp (dstIp : Ipv4Addr) (seqNum : UInt32) (payload : Bytes) : Segment where
  srcIp := appIp
  dstIp := dstIp
  sport := 5000
  dport := 443
  seqNum := seqNum
  isSyn := false
  isAck := true
  isFin := false
  isRst := false
  payload := payload

def synFromApp (dstIp : Ipv4Addr) (seqNum : UInt32) : Segment :=
  { fromApp dstIp seqNum [] with isSyn := true, isAck := false }

def connectFirst : List Event :=
  [.packet (synFromApp ⟨1, 1, 1, 1⟩ 100).encode 7 0, .resume, .connect 0 .succeed,
    .connect 0 .store, .connect 0 .install, .connect 0 (.spawn .both), .connect 0 .synAck]

end Kourosh.Tun2socks.Bridge
