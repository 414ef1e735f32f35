import Kourosh.Basic
import Kourosh.Lib.Run
import Kourosh.Lib.Tickets

/-
  The DNS relay of the local listener.

  Every query of a udpgw stream goes down a relay that all flows share, under a transaction id of
  the relay's own.
-/

-- Datagrams And Frames

namespace Kourosh.Udpgw

open Option
open Function
open List

/- The size of `DNS_UPSTREAMS`. -/
def dnsUpstreams : Nat := 2

def dnsRetryMs : Int := 1200

def dnsPendingTtlMs : Int := 5000

def udpBuffer : Nat := 4096

def flagIpv6 : UInt8 := 8

structure Query where
  conid : UInt16
  isIpv6 : Bool
  clientAddress : Bytes
  payload : Bytes
  length_address : clientAddress.length = if isIpv6 then 18 else 6

def udpgwBody (conid : UInt16) (isIpv6 : Bool) (clientAddress payload : Bytes) : Bytes :=
  [if isIpv6 then flagIpv6 else 0, UInt8.ofNat conid.toNat, UInt8.ofNat (conid.toNat / 256)] ++
    clientAddress ++ payload

/- The bytes that `writeUdpgw` writes. -/
def udpgwFrame (conid : UInt16) (isIpv6 : Bool) (clientAddress payload : Bytes) : Bytes :=
  let body := udpgwBody conid isIpv6 clientAddress payload
  [UInt8.ofNat body.length, UInt8.ofNat (body.length / 256)] ++ body

def udpHeader (buffer : Bytes) : Option Nat :=
  if byteAt buffer 3 = 1 then some 10
  else if byteAt buffer 3 = 4 then some 22
  else if byteAt buffer 3 = 3 then some (5 + (byteAt buffer 4).toNat + 2)
  else none

def decapsulate (buffer : Bytes) : Option Bytes :=
  if buffer.length < 10 then none
  else if byteAt buffer 2 ≠ 0 then none
  else
    (udpHeader buffer).bind fun header =>
      if buffer.length ≤ header then none
      else some (buffer.drop header)

inductive Source where
  | v4 (ip : Ipv4Addr)
  | v6 (bytes : Bytes) (length_bytes : bytes.length = 16)
  | domain (name : Bytes) (length_name : name.length < 256)

def Source.header (port : UInt16) : Source → Bytes
| v4 ip => [0, 0, 0, 1, ip.a, ip.b, ip.c, ip.d] ++ u16ToBe port
| v6 bytes _ => [0, 0, 0, 4] ++ bytes ++ u16ToBe port
| domain name _ => [0, 0, 0, 3, UInt8.ofNat name.length] ++ name ++ u16ToBe port

lemma length_le_of_decapsulate {buffer payload : Bytes}
  (hSome : decapsulate buffer = some payload) : payload.length ≤ buffer.length := by
  simp only [decapsulate, ite_none_left_eq_some, bind_eq_some_iff, some.injEq] at hSome
  rcases hSome with ⟨-, -, header, -, -, rfl⟩
  rw [length_drop]
  omega

lemma eq_of_decapsulate_append
  {header reply payload : Bytes} (hHeader : udpHeader (header ++ reply) = some header.length)
  (hSome : decapsulate (header ++ reply) = some payload) : payload = reply := by
  simp only [decapsulate, hHeader, bind_some, drop_left, ite_none_left_eq_some, some.injEq] at hSome
  exact hSome.2.2.2.symm

/- The reply behind the header is what was sent. -/
lemma eq_of_decapsulate_relayed {source : Source} {port : UInt16} {reply payload : Bytes}
  (hSome : decapsulate (source.header port ++ reply) = some payload) : payload = reply := by
  have hPort : (u16ToBe port).length = 2 := rfl
  cases source with
  | v4 => exact eq_of_decapsulate_append rfl hSome
  | v6 bytes hBytes =>
    have hLength : (Source.header port (.v6 bytes hBytes)).length = 22 := by
      simp [Source.header, hBytes, hPort]
    apply eq_of_decapsulate_append ?_ hSome
    rw [hLength]
    rfl
  | domain name hName =>
    have hLength : (Source.header port (.domain name hName)).length = 5 + name.length + 2 := by
      simp only [Source.header, length_append, length_cons, length_nil, hPort]
    have hByte : (UInt8.ofNat name.length).toNat = name.length := by
      rw [UInt8.toNat_ofNat']
      omega
    apply eq_of_decapsulate_append ?_ hSome
    rw [hLength]
    change some (5 + (UInt8.ofNat name.length).toNat + 2) = _
    rw [hByte]

-- The Threads

/- `dnsSeq.incrementAndGet() and 0xFFFF`, for a count. -/
def dnsToken (use : Nat) : UInt16 := UInt16.ofNat use

structure DnsPending where
  conid : UInt16
  isIpv6 : Bool
  clientAddress : Bytes
  originalId : UInt16
  query : Bytes
  sentAt : Int
  tried : Nat
  order : Nat

def Query.pending (q : Query) (use : Nat) (now : Int) : DnsPending where
  conid := q.conid
  isIpv6 := q.isIpv6
  clientAddress := q.clientAddress
  originalId := u16At q.payload 0
  query := u16ToBe (dnsToken use) ++ q.payload.drop 2
  sentAt := now
  tried := 1
  order := 0

def DnsPending.frame (p : DnsPending) (payload : Bytes) : Bytes :=
  udpgwFrame p.conid p.isIpv6 p.clientAddress (u16ToBe p.originalId ++ payload.drop 2)

inductive Arrival where
  -- the reply of a resolver to a query, as the relay wraps it
  | relayed (source : Source) (port : UInt16) (reply : Bytes) (use : Nat)
  -- anything else, asked for or not
  | other (datagram : Bytes)

namespace Arrival

def datagram : Arrival → Bytes
| relayed source port reply _ => source.header port ++ reply
| other bytes => bytes

def use : Arrival → Option Nat
| relayed _ _ _ use => some use
| other _ => none

def reply : Arrival → Bytes
| relayed _ _ reply _ => reply
| other bytes => (decapsulate (bytes.take udpBuffer)).getD []

end Arrival

/- `submitDnsQuery`, between its accesses to what is shared. -/
inductive Submitter where
  | idle
  | fresh (use : Nat)
  | evicting (use : Nat) (victim : UInt16)
  | ready (use : Nat)
  | filed (use : Nat)
  | ordered (use : Nat)

def Submitter.unfiled : Submitter → Option Nat
| fresh use => some use
| evicting use _ => some use
| ready use => some use
| idle => none
| filed _ => none
| ordered _ => none

/- `pumpDnsChannel`. -/
inductive Pump where
  | waiting
  | received (arrival : Arrival) (payload : Bytes)
  | holding (use : Nat) (arrival : Arrival) (payload : Bytes)
  | answering (use : Nat) (arrival : Arrival) (payload : Bytes)

inductive Retry where
  | idle
  | expiring (token : UInt16)
  | resending (use : Nat) (upstream : Nat)

structure Written where
  use : Nat
  arrival : Arrival
  frame : Bytes

structure Relay where
  -- the number of times a token was drawn
  seq : Nat
  preferred : Nat
  -- `dnsPending`, what the pumps took out of it, and the
  -- queries that were answered
  tickets : Tickets UInt16 Nat
  -- the objects of the queries, by the count of their token
  entries : Nat → Option DnsPending
  submitter : Submitter
  pumps : Nat → Pump
  retry : Retry
  -- the queries as they were submitted
  submitted : Nat → Option Query
  -- what went down to which resolver
  asked : List (Nat × Nat)
  written : List Written

def upstreamOf (pump : Nat) : Nat := pump % dnsUpstreams

inductive Event where
  | submit (q : Query) (now : Int)
  -- the map is full, with the oldest entry, or it is not
  | sizeUp (victim : Option UInt16)
  | evict
  | put
  | order
  | send (up : Bool)
  -- the warm-up draws a token for a query of its own
  | probe
  | receive (pump : Nat) (arrival : Arrival)
  | remove (pump : Nat)
  | prefer (pump : Nat)
  | write (pump : Nat) (up : Bool)
  | visit (token : UInt16) (now : Int)
  | expire
  | resend (up : Bool)

namespace Relay

def init (seq preferred : Nat) : Relay where
  seq := seq
  preferred := preferred
  tickets := .empty
  entries := fun _ => none
  submitter := .idle
  pumps := fun _ => .waiting
  retry := .idle
  submitted := fun _ => none
  asked := []
  written := []

variable (s : Relay)

def setPump (i : Nat) (pump : Pump) : Relay := { s with pumps := update s.pumps i pump }

def accept (q : Query) (now : Int) : Relay :=
  let use := s.seq + 1
  { s with
    seq := use, entries := update s.entries use (some (q.pending use now)),
    submitted := update s.submitted use (some q), submitter := .fresh use }

def setEntry (use : Nat) (f : DnsPending → DnsPending) : Relay :=
  { s with entries := update s.entries use ((s.entries use).map f) }

/- `sendDnsQuery`, over a channel that is up. -/
def ask (use upstream : Nat) (up : Bool) : Relay :=
  if up then { s with asked := s.asked ++ [(use, upstream)] }
  else s

def Arrives (i : Nat) : Arrival → Prop
| .relayed _ _ reply use => (use, upstreamOf i) ∈ s.asked ∧ u16At reply 0 = dnsToken use
| .other _ => True

instance (s : Relay) (i : Nat) (arrival : Arrival) : Decidable (s.Arrives i arrival) :=
  match arrival with
  | .relayed _ _ _ _ => inferInstanceAs (Decidable (_ ∈ _ ∧ _ = _))
  | .other _ => .isTrue trivial

def payloadOf (arrival : Arrival) : Option Bytes :=
  (decapsulate (arrival.datagram.take udpBuffer)).filter fun payload => decide (12 ≤ payload.length)

def pumpFor (arrival : Arrival) (payload : Bytes) : Option Nat → Pump
| none => .waiting
| some use => .holding use arrival payload

/- `dnsPending.remove(token)` of a pump. -/
def removeFor (i : Nat) (arrival : Arrival) (payload : Bytes) : Relay :=
  { s with
    tickets := s.tickets.take (u16At payload 0) i
    pumps := update s.pumps i (pumpFor arrival payload (s.tickets.filed (u16At payload 0))) }

/- `writeUdpgw`, on a stream that is up. -/
def answer (i use : Nat) (arrival : Arrival) (payload : Bytes) (up : Bool) : Relay :=
  match s.entries use with
  | some p =>
    if up then
      { s with
        tickets := s.tickets.finish i use, pumps := update s.pumps i .waiting,
        written := s.written ++ [⟨use, arrival, p.frame payload⟩] }
    else { s with tickets := s.tickets.release i, pumps := update s.pumps i .waiting }
  | none => s

def visitEntry (token : UInt16) (use : Nat) (p : DnsPending) (now : Int) : Relay :=
  if dnsPendingTtlMs < now - p.sentAt then { s with retry := .expiring token }
  else if dnsRetryMs < now - p.sentAt ∧ p.tried < dnsUpstreams then
    { s.setEntry use (fun p => { p with tried := p.tried + 1, sentAt := now }) with
      retry := .resending use ((p.order + p.tried) % dnsUpstreams) }
  else s

def step : Event → Option Relay
| .submit q now =>
  match s.submitter with
  | .idle =>
    if q.payload.length < 12 then some s
    else some (s.accept q now)
  | _ => none
| .sizeUp victim =>
  match s.submitter, victim with
  | .fresh use, none => some { s with submitter := .ready use }
  | .fresh use, some token => some { s with submitter := .evicting use token }
  | _, _ => none
| .evict =>
  match s.submitter with
  | .evicting use token =>
    some { s with tickets := s.tickets.withdraw token, submitter := .ready use }
  | _ => none
| .put =>
  match s.submitter with
  | .ready use =>
    some { s with tickets := s.tickets.file (dnsToken use) use, submitter := .filed use }
  | _ => none
| .order =>
  match s.submitter with
  | .filed use =>
    some
      { s.setEntry use (fun p => { p with order := s.preferred }) with submitter := .ordered use }
  | _ => none
| .send up =>
  match s.submitter with
  | .ordered use => (s.entries use).map fun p => { s.ask use p.order up with submitter := .idle }
  | _ => none
| .probe => some { s with seq := s.seq + 1 }
| .receive i arrival =>
  match s.pumps i with
  | .waiting =>
    if s.Arrives i arrival then
      match payloadOf arrival with
      | none => some s
      | some payload => some (s.setPump i (.received arrival payload))
    else none
  | _ => none
| .remove i =>
  match s.pumps i with
  | .received arrival payload => some (s.removeFor i arrival payload)
  | _ => none
| .prefer i =>
  match s.pumps i with
  | .holding use arrival payload =>
    some { s.setPump i (.answering use arrival payload) with preferred := upstreamOf i }
  | _ => none
| .write i up =>
  match s.pumps i with
  | .answering use arrival payload => some (s.answer i use arrival payload up)
  | _ => none
| .visit token now =>
  match s.retry with
  | .idle =>
    (s.tickets.filed token).bind fun use =>
      (s.entries use).map fun p => s.visitEntry token use p now
  | _ => none
| .expire =>
  match s.retry with
  | .expiring token =>
    some { s with tickets := s.tickets.withdraw token, retry := .idle }
  | _ => none
| .resend up =>
  match s.retry with
  | .resending use upstream => some { s.ask use upstream up with retry := .idle }
  | _ => none

-- What A Step Does

inductive Stepped (s : Relay) : Event → Relay → Prop where
  | idle {e : Event} : Stepped s e s
  | accepted {q : Query} {now : Int} (hIdle : s.submitter = .idle)
    (hLong : 12 ≤ q.payload.length) : Stepped s (.submit q now) (s.accept q now)
  | sized {victim : Option UInt16} {use : Nat} {submitter : Submitter}
    (hFresh : s.submitter = .fresh use) (hUnfiled : submitter.unfiled = some use) :
    Stepped s (.sizeUp victim) { s with submitter := submitter }
  | evicted {use : Nat}
    {token : UInt16} (hEvicting : s.submitter = .evicting use token) : Stepped s .evict
      { s with tickets := s.tickets.withdraw token, submitter := .ready use }
  | put {use : Nat} (hReady : s.submitter = .ready use) : Stepped s .put
    { s with tickets := s.tickets.file (dnsToken use) use, submitter := .filed use }
  | ordered {use : Nat} (hFiled : s.submitter = .filed use) : Stepped s .order
    { s.setEntry use (fun p => { p with order := s.preferred }) with submitter := .ordered use }
  | sent {use : Nat} {p : DnsPending} {up : Bool} (hOrdered : s.submitter = .ordered use) :
    Stepped s (.send up) { s.ask use p.order up with submitter := .idle }
  | probed : Stepped s .probe { s with seq := s.seq + 1 }
  | received {i : Nat} {arrival : Arrival} {payload : Bytes} (hWaiting : s.pumps i = .waiting)
    (hArrives : s.Arrives i arrival) (hPayload : payloadOf arrival = some payload) :
    Stepped s (.receive i arrival) (s.setPump i (.received arrival payload))
  | removed {i : Nat}
    {arrival : Arrival} {payload : Bytes} (hReceived : s.pumps i = .received arrival payload) :
    Stepped s (.remove i) (s.removeFor i arrival payload)
  | preferred {i use : Nat} {arrival : Arrival} {payload : Bytes}
    (hHolding : s.pumps i = .holding use arrival payload) : Stepped s (.prefer i)
      { s.setPump i (.answering use arrival payload) with preferred := upstreamOf i }
  | wrote {i use : Nat} {arrival : Arrival}
    {payload : Bytes} {p : DnsPending} (hAnswering : s.pumps i = .answering use arrival payload)
    (hEntry : s.entries use = some p) : Stepped s (.write i true) { s with
      tickets := s.tickets.finish i use, pumps := update s.pumps i .waiting,
      written := s.written ++ [⟨use, arrival, p.frame payload⟩] }
  | failed {i : Nat} : Stepped s (.write i false)
    { s with tickets := s.tickets.release i, pumps := update s.pumps i .waiting }
  | expiring {token : UInt16} {now : Int} :
    Stepped s (.visit token now) { s with retry := .expiring token }
  | retried {token : UInt16} {now : Int} {use upstream : Nat}
    (hFiled : s.tickets.filed token = some use) : Stepped s (.visit token now)
      { s.setEntry use (fun p => { p with tried := p.tried + 1, sentAt := now }) with
        retry := .resending use upstream }
  | expired {token : UInt16} : Stepped s .expire
    { s with tickets := s.tickets.withdraw token, retry := .idle }
  | resent {use upstream : Nat} {up : Bool} (hResending : s.retry = .resending use upstream) :
    Stepped s (.resend up) { s.ask use upstream up with retry := .idle }

variable {s s' : Relay} {now : Int} {i : Nat}

attribute [local simp] step

lemma stepped_of_submit
  {q : Query} (hStep : s.step (.submit q now) = some s') : Stepped s (.submit q now) s' := by
  cases hSubmitter : s.submitter with
  | idle =>
    simp only [step, hSubmitter] at hStep
    split at hStep
    next =>
      cases hStep
      exact .idle
    next hLong =>
      cases hStep
      exact .accepted hSubmitter (Nat.le_of_not_lt hLong)
  | _ => simp [hSubmitter] at hStep

lemma stepped_of_sizeUp {victim : Option UInt16}
  (hStep : s.step (.sizeUp victim) = some s') : Stepped s (.sizeUp victim) s' := by
  cases hSubmitter : s.submitter with
  | fresh =>
    cases victim with
    | none | some =>
      simp only [step, hSubmitter, some.injEq] at hStep
      subst hStep
      exact .sized hSubmitter rfl
  | _ => simp [hSubmitter] at hStep

lemma stepped_of_receive {arrival : Arrival}
  (hStep : s.step (.receive i arrival) = some s') : Stepped s (.receive i arrival) s' := by
  cases hPump : s.pumps i with
  | waiting =>
    simp only [step, hPump] at hStep
    split at hStep
    next hArrives =>
      cases hPayload : payloadOf arrival with
      | none =>
        simp only [hPayload, some.injEq] at hStep
        subst hStep
        exact .idle
      | some =>
        simp only [hPayload, some.injEq] at hStep
        subst hStep
        exact .received hPump hArrives hPayload
    next => cases hStep
  | _ => simp [hPump] at hStep

lemma stepped_of_write {up : Bool} (hStep : s.step (.write i up) = some s') :
  Stepped s (.write i up) s' := by
  cases hPump : s.pumps i with
  | answering use =>
    simp only [step, hPump, some.injEq] at hStep
    subst hStep
    cases hEntry : s.entries use with
    | none =>
      simp only [answer, hEntry]
      exact .idle
    | some =>
      cases up with
      | true =>
        simp only [answer, hEntry, if_true]
        exact .wrote hPump hEntry
      | false =>
        simp only [answer, hEntry, Bool.false_eq_true, if_false]
        exact .failed
  | _ => simp [hPump] at hStep

lemma stepped_of_visit {token : UInt16}
  (hStep : s.step (.visit token now) = some s') : Stepped s (.visit token now) s' := by
  cases hRetry : s.retry with
  | idle =>
    simp only [step, hRetry, bind_eq_some_iff, map_eq_some_iff] at hStep
    rcases hStep with ⟨use, hFiled, p, -, rfl⟩
    unfold visitEntry
    split
    · exact .expiring
    · split
      · exact .retried hFiled
      · exact .idle
  | _ => simp [hRetry] at hStep

lemma stepped_of_step {e : Event} (hStep : s.step e = some s') : Stepped s e s' := by
  cases e with
  | submit => exact stepped_of_submit hStep
  | sizeUp => exact stepped_of_sizeUp hStep
  | evict =>
    cases hSubmitter : s.submitter with
    | evicting =>
      simp only [step, hSubmitter, some.injEq] at hStep
      subst hStep
      exact .evicted hSubmitter
    | _ => simp [hSubmitter] at hStep
  | put =>
    cases hSubmitter : s.submitter with
    | ready =>
      simp only [step, hSubmitter, some.injEq] at hStep
      subst hStep
      exact .put hSubmitter
    | _ => simp [hSubmitter] at hStep
  | order =>
    cases hSubmitter : s.submitter with
    | filed =>
      simp only [step, hSubmitter, some.injEq] at hStep
      subst hStep
      exact .ordered hSubmitter
    | _ => simp [hSubmitter] at hStep
  | send =>
    cases hSubmitter : s.submitter with
    | ordered =>
      simp only [step, hSubmitter, map_eq_some_iff] at hStep
      rcases hStep with ⟨p, -, rfl⟩
      exact .sent hSubmitter
    | _ => simp [hSubmitter] at hStep
  | probe =>
    cases hStep
    exact .probed
  | receive => exact stepped_of_receive hStep
  | remove i =>
    cases hPump : s.pumps i with
    | received =>
      simp only [step, hPump, some.injEq] at hStep
      subst hStep
      exact .removed hPump
    | _ => simp [hPump] at hStep
  | prefer i =>
    cases hPump : s.pumps i with
    | holding =>
      simp only [step, hPump, some.injEq] at hStep
      subst hStep
      exact .preferred hPump
    | _ => simp [hPump] at hStep
  | write => exact stepped_of_write hStep
  | visit => exact stepped_of_visit hStep
  | expire =>
    cases hRetry : s.retry with
    | expiring =>
      simp only [step, hRetry, some.injEq] at hStep
      subst hStep
      exact .expired
    | _ => simp [hRetry] at hStep
  | resend =>
    cases hRetry : s.retry with
    | resending =>
      simp only [step, hRetry, some.injEq] at hStep
      subst hStep
      exact .resent hRetry
    | _ => simp [hRetry] at hStep

end Relay

end Kourosh.Udpgw
