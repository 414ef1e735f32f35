import Kourosh.Socks.Request

/-
  Several requests on one connection to the HTTP proxy.

  Only the first head is read.

  Correctness is proven by:
    * `routedEach_iff`
-/

-- Whose Bytes

namespace Kourosh.Socks

open Routing
open List
open Option

inductive Part where
  | head
  | body

namespace Request

def labels (r : Request) : List (Request × Part) :=
  List.replicate r.head.length (r, .head) ++ List.replicate r.body.length (r, .body)

def Names (r : Request) (u : Upstream) : Prop := u.authority = r.host ∧ u.port.toNat = r.portNumber

def Allowed (r : Request) (lib : Libraries) (rules : RuleSet) : Prop :=
  ∀ port : UInt16, port.toNat = r.portNumber →
    rules.decide lib.toLowercase (httpTarget lib r.host).host port ≠ .block

end Request

def stream (requests : List Request) : Bytes := requests.flatMap Request.wire

def labels (requests : List Request) : List (Request × Part) := requests.flatMap Request.labels

def Upstream.relayed (u : Upstream) (requests : List Request) : List (Request × Part) :=
  ((labels requests).drop u.skipped).take (u.handed.length - u.front.length)

/-
  A relay treats every request by its own request line: the head of the first is in origin form,
  and of all that is relayed as it is, each byte is in the body of a request that names this
  destination and may go there.
-/
structure PerRequest (lib : Libraries) (rules : RuleSet)
  (requests : List Request) (u : Upstream) : Prop where
  origin :
    ∀ r ∈ requests.head?, utf8Bytes r.originLine <+: u.front ∧ r.Names u ∧ r.Allowed lib rules
  relayed :
    ∀ label ∈ u.relayed requests, label.2 = .body ∧ label.1.Names u ∧ label.1.Allowed lib rules

/-
  The requests of a connection are routed one by one, however they arrive and whatever the rules
  and the network are.
-/
def RoutedEach (lib : Libraries) (requests : List Request) : Prop :=
  ∀ (rules : RuleSet) (env : Environment) (gateway : Gateway) (client : Client),
    client.unread = stream requests →
    ∀ u ∈ (handleHttpClient lib rules env gateway client).upstream, PerRequest lib rules requests u

-- The First Head

lemma length_labels (requests : List Request) :
  (labels requests).length = (stream requests).length := by
  induction requests with
  | nil => rfl
  | cons _ _ ih =>
    simp only [labels, stream] at ih ⊢
    simp [ih, Request.labels, Request.wire]

variable {r : Request} {rest : List Request} {read : ReadHead} {lib : Libraries}

lemma head_of_headOf {writes : Option Nat} {head pipelined : Bytes}
  {client : Client} (hHead : HeadOf (stream (r :: rest)) writes head pipelined client) :
  head = r.head ∧ pipelined ++ client.unread = r.body ++ stream rest := by
  have hStream : stream (r :: rest) = r.head ++ (r.body ++ stream rest) := by
    simp [stream, Request.wire]
  have hEnds := hHead.ends
  rw [hStream, r.findHeadEnd_head] at hEnds
  have hLength : head.length = r.head.length := (some.inj hEnds).symm
  have hSplit := hHead.stream_eq
  rw [hStream] at hSplit
  rcases append_inj hSplit hLength.symm with ⟨hSame, hRest⟩
  exact ⟨hSame.symm, hRest.symm⟩

lemma labels_drop (r : Request) (rest : List Request) : (labels (r :: rest)).drop r.head.length =
  List.replicate r.body.length (r, .body) ++ labels rest := by
  have hLength : r.head.length = (List.replicate r.head.length (r, Part.head)).length := by
    rw [length_replicate]
  have hShape : labels (r :: rest) = List.replicate r.head.length (r, .head) ++
    (List.replicate r.body.length (r, .body) ++ labels rest) := by simp [labels, Request.labels]
  rw [hShape]
  nth_rewrite 1 [hLength]
  exact drop_left

-- One Request

def Request.Unserved (r : Request) : Prop :=
  httpHeadLimit + httpChunk < r.head.length ∨ ¬ r.Recognised

lemma sent_of_plain {request : HttpRequestLine} (hConnect : ¬ r.IsConnect) (hPlain : r.Plain)
  (hParse : parseRequestLine r.line = some request) : request.rewritten = some r.originLine ∧
  request.authority = r.host ∧ request.port.toNat = r.portNumber := by
  rw [r.parseRequestLine_line, if_neg hConnect] at hParse
  split at hParse
  next hScheme =>
    rcases Request.parseAbsolute_uri hParse with ⟨hLine, hAuthority⟩
    rw [Request.sentLine_of_plain hPlain] at hLine
    rw [(Request.uri_of_plain hPlain).1] at hAuthority
    exact
      ⟨hLine, Request.named_of_parseAuthority (Request.defaultPort_of_hasScheme hScheme) hAuthority⟩
  · cases hParse

lemma plain_of_origin (hParse : parseRequestLine r.line = some read.request)
  (hOrigin : utf8Bytes r.originLine <+: read.preamble) : ¬ r.IsConnect ∧ r.Plain := by
  rw [r.parseRequestLine_line] at hParse
  split at hParse
  · rcases map_eq_some_iff.mp hParse with ⟨found, -, hRequest⟩
    have hNone : read.preamble = [] := by
      rw [ReadHead.preamble, ← hRequest]
    rw [hNone, prefix_nil, Request.originLine, utf8Bytes_append] at hOrigin
    have hBlank := (append_eq_nil_iff.mp hOrigin).2
    cases hBlank
  next hConnect =>
    split at hParse
    · have hLine := (Request.parseAbsolute_uri hParse).1
      rw [ReadHead.preamble, hLine] at hOrigin
      exact ⟨hConnect, Request.plain_of_front hOrigin⟩
    · cases hParse

lemma routedEach_single (hConnect : ¬ r.IsConnect) (hPlain : r.Plain) : RoutedEach lib [r] := by
  intro rules env gateway client hStream u hUp
  rcases upstream_handleHttpClient hUp with ⟨read, client', channel, hHead, hParse, hAllowed, rfl⟩
  rw [hStream] at hHead
  have hFirst := (head_of_headOf hHead).1
  rw [hFirst, r.lineOf_head] at hParse
  rcases sent_of_plain hConnect hPlain hParse with ⟨hLine, hHost, hPort⟩
  have hNames (handed : Bytes) : r.Names (read.upstream handed) := ⟨hHost, hPort⟩
  have hMay : r.Allowed lib rules := by
    intro port hSame
    have hEq : port = read.request.port := UInt16.toNat_inj.mp (hSame.trans hPort.symm)
    rw [hEq, ← hHost]
    exact hAllowed
  constructor
  · intro first hMem
    cases hMem
    refine ⟨?_, hNames _, hMay⟩
    show utf8Bytes r.originLine <+: read.preamble
    rw [ReadHead.preamble, hLine]
    exact prefix_append _ _
  · intro label hMem
    have hDropped : label ∈ (labels [r]).drop r.head.length := by
      have hTaken := mem_of_mem_take hMem
      rw [← hFirst]
      exact hTaken
    rw [labels_drop, labels, flatMap_nil, append_nil] at hDropped
    rw [eq_of_mem_replicate hDropped]
    exact ⟨rfl, hNames _, hMay⟩

lemma routedEach_of_unserved (rest : List Request) (hUnserved : r.Unserved) :
  RoutedEach lib (r :: rest) := by
  intro rules env gateway client hStream u hUp
  rcases upstream_handleHttpClient hUp with ⟨read, client', channel, hHead, hParse, -, -⟩
  rw [hStream] at hHead
  have hFirst := (head_of_headOf hHead).1
  have hFits := hHead.fits
  rw [hFirst] at hFits
  rw [hFirst, r.lineOf_head] at hParse
  have hRecognised : r.Recognised := by
    rw [r.recognised_iff, hParse]
    rfl
  rcases hUnserved with _ | hUnknown
  · omega
  · exact absurd hRecognised hUnknown

lemma routedEach_nil (lib : Libraries) : RoutedEach lib [] := by
  intro rules env gateway client hStream u hUp
  rcases upstream_handleHttpClient hUp with ⟨read, client', channel, hHead, -, -, -⟩
  have hEnds := hHead.ends
  rw [hStream] at hEnds
  cases hEnds

-- Every Request

lemma mem_relayed_next {next : Request} {behind : Bytes}
  (hHead : read.head = r.head) (hBehind : behind = r.body ++ stream (next :: rest)) :
  (next, Part.head) ∈ (read.upstream (read.preamble ++ behind)).relayed (r :: next :: rest) := by
  have hDrop : (labels (r :: next :: rest)).drop read.head.length =
    List.replicate r.body.length (r, .body) ++ labels (next :: rest) := by
    rw [hHead]
    exact labels_drop r (next :: rest)
  have hLength : (List.replicate r.body.length (r, Part.body) ++ labels (next :: rest)).length ≤
    (read.preamble ++ behind).length - read.preamble.length := by
    rw [hBehind]
    simp only [length_append, length_replicate, length_labels]
    omega
  have hPos : next.head.length ≠ 0 := by simp [Request.head, crlf]
  show _ ∈ ((labels (r :: next :: rest)).drop read.head.length).take
    ((read.preamble ++ behind).length - read.preamble.length)
  rw [hDrop, take_of_length_le hLength]
  simp [labels, Request.labels, hPos]

lemma single_of_routedEach (hServed : ¬ r.Unserved)
  (hRouted : RoutedEach lib (r :: rest)) : (¬ r.IsConnect ∧ r.Plain) ∧ rest = [] := by
  rcases not_or.mp hServed with ⟨hFits, hKnown⟩
  have hStream : stream (r :: rest) = r.head ++ (r.body ++ stream rest) := by
    simp [stream, Request.wire]
  have hEnd : findHeadEnd (stream (r :: rest)) = some r.head.length := by
    rw [hStream]
    exact r.findHeadEnd_head _
  have hKnown : (parseRequestLine r.line).isSome := r.recognised_iff.mp (not_not.mp hKnown)
  rcases isSome_iff_exists.mp hKnown with ⟨request, hParse⟩
  rcases readHead_atOnce hEnd (Nat.le_of_not_lt hFits) with ⟨⟨head, pipelined, client⟩, hRead⟩
  have hHead := readHead_spec hRead
  rw [Client.unread_atOnce] at hHead
  rcases head_of_headOf hHead with ⟨rfl, hBehind⟩
  have hParse' : parseRequestLine (lineOf r.head) = some request := by
    rw [r.lineOf_head]
    exact hParse
  have hUp := (exists_upstream lib hRead hParse' fun _ => hHead.writes_eq).1
  have hEach := hRouted unruled openNetwork noGateway _ (Client.unread_atOnce _) _ hUp
  have hOrigin := (hEach.origin r rfl).1
  refine ⟨plain_of_origin hParse hOrigin, ?_⟩
  cases rest with
  | nil => rfl
  | cons next =>
    -- the head of the next request is relayed as it is
    have hFirst : (ReadHead.mk r.head pipelined request).head = r.head := rfl
    have hMem := mem_relayed_next hFirst hBehind
    cases (hEach.relayed _ hMem).1

/-
  The requests of a connection are routed one by one exactly if nothing is served, or there is one
  request, it is no CONNECT, and its query is behind a path.
-/
theorem routedEach_iff
    (lib : Libraries)
    (requests : List Request) :
    RoutedEach lib requests ↔
      ∀ r ∈ requests.head?, r.Unserved ∨ (¬ r.IsConnect ∧ r.Plain) ∧ requests.length = 1 := by
  cases requests with
  | nil =>
    constructor
    · exact nofun
    · intro _
      exact routedEach_nil lib
  | cons first rest =>
    simp only [head?_cons, mem_def, some.injEq, forall_eq']
    constructor
    · intro hRouted
      by_cases hUnserved : first.Unserved
      · exact Or.inl hUnserved
      · rcases single_of_routedEach hUnserved hRouted with ⟨hPlain, rfl⟩
        exact Or.inr ⟨hPlain, rfl⟩
    · rintro (hUnserved | ⟨⟨hConnect, hPlain⟩, hLength⟩)
      · exact routedEach_of_unserved rest hUnserved
      · have hRest : rest = [] := by simpa using hLength
        rw [hRest]
        exact routedEach_single hConnect hPlain

def getFirst : Request where
  method := "GET".toList
  scheme := "http".toList
  bracketed := false
  host := "a.example".toList
  port := none
  path := "/".toList
  query := []
  headers := [ascii "Host: a.example"]
  body := []
  method_ne := by decide
  host_ne := by decide
  visible := List.all_eq_true.mp (by decide)
  scheme_plain := by decide
  host_plain := by simp
  host_colon := by decide
  digits := by decide
  path_front := by decide
  query_front := by decide
  lines := by decide

def getSecond : Request :=
  { getFirst with
    host := "b.example".toList
    headers := [ascii "Host: b.example"]
    host_ne := by decide
    visible := List.all_eq_true.mp (by decide)
    host_plain := by simp
    host_colon := by decide
    lines := by decide }

/- The second request goes to the host of the first. -/
theorem second_request_relayed : ¬ RoutedEach asciiLibraries [getFirst, getSecond] := by
  intro hRouted
  have hFits : ¬ httpHeadLimit + httpChunk < getFirst.head.length := by decide +kernel
  have hKnown : (parseRequestLine getFirst.line).isSome := by decide +kernel
  have hServed :
    ¬ getFirst.Unserved := not_or.mpr ⟨hFits, not_not.mpr (getFirst.recognised_iff.mpr hKnown)⟩
  cases (single_of_routedEach hServed hRouted).2

end Kourosh.Socks
