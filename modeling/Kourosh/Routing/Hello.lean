import Kourosh.Routing.Sniff

/-
  The server name of a whole ClientHello.

  The reader goes through lists of counted parts.

  Correctness is proven by:
    * `sni_is_complete`
-/

-- Hellos

namespace Kourosh.Routing

open List Option

def counted (body : Bytes) : Bytes := u16ToBe (UInt16.ofNat body.length) ++ body

def byteCounted (body : Bytes) : Bytes := UInt8.ofNat body.length :: body

structure ServerName where
  nameType : UInt8
  name : Bytes

def ServerName.bytes (n : ServerName) : Bytes := n.nameType :: counted n.name

structure Extension where
  kind : UInt16
  body : Bytes

def Extension.bytes (e : Extension) : Bytes := u16ToBe e.kind ++ counted e.body

def serverNameExtension (names : List ServerName) : Extension :=
  ⟨0, counted (names.flatMap ServerName.bytes)⟩

def helloBody (version : UInt16) (random sessionId cipherSuites
  compression : Bytes) (extensions : List Extension) : Bytes :=
  u16ToBe version ++ random ++ byteCounted sessionId ++ counted cipherSuites ++
    byteCounted compression ++ counted (extensions.flatMap Extension.bytes)

structure Hello where
  recordVersion : UInt16
  version : UInt16
  random : Bytes
  sessionId : Bytes
  cipherSuites : Bytes
  compression : Bytes
  extensions : List Extension
  random_length : random.length = 32
  sessionId_le : sessionId.length ≤ 255
  compression_le : compression.length ≤ 255
  fits : (helloBody version random sessionId cipherSuites compression extensions).length ≤ 65531

namespace Hello

def body (m : Hello) : Bytes :=
  helloBody m.version m.random m.sessionId m.cipherSuites m.compression m.extensions

def handshake (m : Hello) : Bytes :=
  [tlsClientHello, UInt8.ofNat (m.body.length / 65536),
    UInt8.ofNat (m.body.length / 256), UInt8.ofNat m.body.length] ++ m.body

def record (m : Hello) : Bytes := tlsHandshake :: (u16ToBe m.recordVersion ++ counted m.handshake)

end Hello

inductive HostEntry (host : Bytes) : List ServerName → Prop where
  | here {names : List ServerName} : HostEntry host (⟨sniHostName, host⟩ :: names)
  | there {n : ServerName} {names : List ServerName} (hOther : n.nameType ≠ sniHostName)
    (hEntry : HostEntry host names) : HostEntry host (n :: names)

inductive ListsHost (host : Bytes) : List Extension → Prop where
  | here {names : List ServerName} {after : List Extension}
    (hEntry : HostEntry host names) : ListsHost host (serverNameExtension names :: after)
  | there {e : Extension} {after : List Extension} (hOther : e.kind.toNat ≠ extServerName)
    (hLists : ListsHost host after) : ListsHost host (e :: after)

-- The Reader With Its Panics

namespace Checked

/- The operator `?` in a reader that may panic. -/
def orNone {α β : Type} (x : Option α) (next : α → Option (Option β)) :
  Option (Option β) := x.elim (some none) next

/-
  Nothing comes out if an index or a slice is out of range, or if a loop goes on for more rounds
  than it is given.
-/
def serverNames (next : Option (Option (List Char))) : Nat → Bytes → Option (Option (List Char))
| 0, _ => none
| n + 1, list =>
  if list.length < 3 then next
  else do
    let nameType ← list[0]?
    orNone (be16 list 1) fun nameLen =>
    orNone (slice list 3 nameLen) fun name => do
      let list ← sliceFrom list (3 + nameLen)
      if nameType ≠ sniHostName then serverNames next n list
      else some (plausibleHost name)

def extensions : Nat → Bytes → Option (Option (List Char))
| 0, _ => none
| n + 1, cur =>
  if cur.length < 4 then some none
  else
    orNone (be16 cur 0) fun extType =>
    orNone (be16 cur 2) fun extLen =>
    orNone (slice cur 4 extLen) fun ext => do
      let cur ← sliceFrom cur (4 + extLen)
      if extType ≠ extServerName then extensions n cur
      else
        orNone (be16 ext 0) fun _ =>
        orNone (sliceFrom ext 2) fun list => serverNames (extensions n cur) (list.length + 1) list

def tlsSni (buf : Bytes) : Option (Option (List Char)) :=
  if buf.length < 5 then some none
  else do
    if (← buf[0]?) ≠ tlsHandshake then some none
    else do
      let hs ← sliceFrom buf 5
      if hs.isEmpty then some none
      else do
        if (← hs[0]?) ≠ tlsClientHello then some none
        else if hs.length < 4 then some none
        else
          orNone (be24 hs 1) fun _ =>
          orNone (sliceFrom hs 4) fun cur =>
            if cur.length < 2 + 32 then some none
            else do
              let cur ← sliceFrom cur (2 + 32)
              orNone cur.head? fun sidLen =>
              orNone (sliceFrom cur (1 + sidLen.toNat)) fun cur =>
              orNone (be16 cur 0) fun csLen =>
              orNone (sliceFrom cur (2 + csLen)) fun cur =>
              orNone cur.head? fun cmLen =>
              orNone (sliceFrom cur (1 + cmLen.toNat)) fun cur =>
              orNone (be16 cur 0) fun _ =>
              orNone (sliceFrom cur 2) fun cur => extensions (cur.length + 1) cur

end Checked

variable {buf body cur host list part rest : Bytes} {name : List Char}
variable {n pos v : Nat} {names : List ServerName} {exts : List Extension}

lemma slice_eq_some_iff : slice buf pos n = some part ↔
  pos + n ≤ buf.length ∧ (buf.drop pos).take n = part := by
  rw [slice, ite_none_right_eq_some, some.injEq]

lemma sliceFrom_of_le (hLe : n ≤ buf.length) : sliceFrom buf n = some (buf.drop n) := if_pos hLe

lemma serverNames_skip (skip : Nat) (list : Bytes) :
  serverNames skip list = serverNames 0 (list.drop skip) := by
  induction list generalizing skip with
  | nil => simp [serverNames]
  | cons _ _ ih =>
    cases skip with
    | zero => rfl
    | succ skip => exact ih skip

lemma extensions_skip (skip : Nat) (cur : Bytes) :
  extensions skip cur = extensions 0 (cur.drop skip) := by
  induction cur generalizing skip with
  | nil => simp [extensions]
  | cons _ _ ih =>
    cases skip with
    | zero => rfl
    | succ skip => exact ih skip

lemma serverNames_eq (list : Bytes) : serverNames 0 list = if list.length < 3 then none
  else
    match be16 list 1 with
    | none => some none
    | some nameLen =>
      match slice list 3 nameLen with
      | none => some none
      | some name =>
        if byteAt list 0 ≠ sniHostName then serverNames 0 (list.drop (3 + nameLen))
        else some (plausibleHost name) := by
  cases list with
  | nil => rfl
  | cons =>
    rw [serverNames]
    simp only [serverNames_skip (2 + _), show ∀ k, 3 + k = 2 + k + 1 by omega, drop_succ_cons]
    rfl

lemma extensions_eq (cur : Bytes) : extensions 0 cur = if cur.length < 4 then none
  else
    (be16 cur 0).bind fun extType =>
    (be16 cur 2).bind fun extLen =>
    (slice cur 4 extLen).bind fun ext =>
      if extType ≠ extServerName then extensions 0 (cur.drop (4 + extLen))
      else
        match serverNameList ext with
        | some result => result
        | none => extensions 0 (cur.drop (4 + extLen)) := by
  cases cur with
  | nil => rfl
  | cons =>
    rw [extensions]
    simp only [extensions_skip (3 + _), show ∀ k, 4 + k = 3 + k + 1 by omega, drop_succ_cons]
    rfl

namespace Checked

lemma orNone_eq {α β : Type} {x : Option α} {f : α → Option β} {next : α → Option (Option β)}
  (hNext : ∀ a, x = some a → next a = some (f a)) : orNone x next = some (x.bind f) := by
  cases x with
  | none => rfl
  | some a => exact hNext a rfl

lemma serverNames_eq (next : Option (Option (List Char))) (hRounds : list.length < n) :
  serverNames next n list = (Routing.serverNames 0 list).elim next some := by
  induction n generalizing list with
  | zero => cases hRounds
  | succ n ih =>
    rw [serverNames, Routing.serverNames_eq]
    split
    next => rfl
    next hLong =>
      rw [getElem?_eq_byteAt (by omega), bind_eq_bind, bind_some]
      cases be16 list 1 with
      | none => rfl
      | some nameLen =>
        cases hName : slice list 3 nameLen with
        | none => simp [orNone, hName]
        | some =>
          have hLe := (slice_eq_some_iff.mp hName).1
          simp only [orNone, elim_some, hName, sliceFrom_of_le hLe, bind_eq_bind, bind_some, ne_eq]
          split
          next => exact ih (by rw [length_drop]; omega)
          next => rfl

lemma extensions_eq (hRounds : cur.length < n) :
  extensions n cur = some (Routing.extensions 0 cur) := by
  induction n generalizing cur with
  | zero => cases hRounds
  | succ n ih =>
    rw [extensions, Routing.extensions_eq]
    split
    next => rfl
    next =>
      refine orNone_eq fun extType _ => orNone_eq fun extLen _ => orNone_eq fun ext hExt => ?_
      have hLe := (slice_eq_some_iff.mp hExt).1
      rw [sliceFrom_of_le hLe, bind_eq_bind, bind_some, ih (by rw [length_drop]; omega)]
      split
      next => rfl
      next =>
        rw [serverNameList]
        cases hList : be16 ext 0 with
        | none => rfl
        | some =>
          simp only [be16, bind_eq_bind, bind_eq_some_iff] at hList
          rcases hList with ⟨_, -, _, hLo, -⟩
          rw [orNone, elim_some, orNone, sliceFrom_of_le (List.getElem?_eq_some_iff.mp
            hLo).1, elim_some, serverNames_eq _ (Nat.lt_succ_self _)]
          cases Routing.serverNames 0 (ext.drop 2) with
          | none | some => rfl

lemma tlsSni_eq (buf : Bytes) : tlsSni buf = some (Routing.tlsSni buf) := by
  rw [tlsSni, Routing.tlsSni]
  cases buf with
  | nil => rfl
  | cons kind rest =>
  simp only [getElem?_cons_zero, head?_cons, bind_eq_bind,
    bind_some, Bool.or_eq_true, decide_eq_true_eq, bne_iff_ne, ne_eq, some.injEq]
  by_cases hShort : (kind :: rest).length < 5
  · rw [if_pos hShort, if_pos (.inl hShort)]
  by_cases hKind : kind = tlsHandshake
  · rw [if_neg hShort, if_neg (not_not.mpr hKind), if_neg (not_or.mpr ⟨hShort, not_not.mpr hKind⟩),
      sliceFrom_of_le (by omega), bind_some]
    cases (kind :: rest).drop 5 with
    | nil => rfl
    | cons message hs =>
    simp only [isEmpty_cons, getElem?_cons_zero, head?_cons,
      bind_some, some.injEq, Bool.false_eq_true, if_false]
    by_cases hMessage : message = tlsClientHello
    · rw [if_neg (not_not.mpr hMessage)]
      by_cases hFour : (message :: hs).length < 4
      · rw [if_pos hFour, if_pos (.inr hFour)]
      rw [if_neg hFour, if_neg (not_or.mpr ⟨not_not.mpr hMessage, hFour⟩)]
      refine orNone_eq fun _ _ => orNone_eq fun cur _ => ?_
      by_cases hRandom : cur.length < 2 + 32
      · rw [if_pos hRandom, if_pos hRandom]
      rw [if_neg hRandom, if_neg hRandom, sliceFrom_of_le (by omega), bind_some]
      exact orNone_eq fun _ _ => orNone_eq fun _ _ => orNone_eq fun _ _ =>
        orNone_eq fun _ _ => orNone_eq fun _ _ => orNone_eq fun _ _ =>
        orNone_eq fun _ _ => orNone_eq fun _ _ => extensions_eq (Nat.lt_succ_self _)
    · rw [if_pos hMessage, if_pos (.inl hMessage)]
  · rw [if_neg hShort, if_pos hKind, if_pos (.inr hKind)]

end Checked

-- More Bytes

section Append

variable (more : Bytes)

lemma getElem?_append_of_some {byte : UInt8} (hByte : buf[pos]? = some byte) :
  (buf ++ more)[pos]? = some byte := by
  rw [getElem?_append_left (List.getElem?_eq_some_iff.mp hByte).1]
  exact hByte

lemma be16_append (hRead : be16 buf pos = some v) : be16 (buf ++ more) pos = some v := by
  simp only [be16, bind_eq_bind, bind_eq_some_iff] at hRead ⊢
  rcases hRead with ⟨hi, hHi, lo, hLo, hSame⟩
  exact ⟨hi, getElem?_append_of_some more hHi, lo, getElem?_append_of_some more hLo, hSame⟩

lemma be24_append (hRead : be24 buf pos = some v) : be24 (buf ++ more) pos = some v := by
  simp only [be24, bind_eq_bind, bind_eq_some_iff] at hRead ⊢
  rcases hRead with ⟨a, hA, b, hB, c, hC, hSame⟩
  exact ⟨a, getElem?_append_of_some more hA, b, getElem?_append_of_some more hB,
    c, getElem?_append_of_some more hC, hSame⟩

lemma slice_append (hPart : slice buf pos n = some part) :
  slice (buf ++ more) pos n = some part := by
  rw [slice_eq_some_iff] at hPart ⊢
  rcases hPart with ⟨_, rfl⟩
  refine ⟨by rw [length_append]; omega, ?_⟩
  rw [drop_append_of_le_length (by omega), take_append_of_le_length (by rw [length_drop]; omega)]

lemma sliceFrom_append (hRest : sliceFrom buf n = some rest) :
  sliceFrom (buf ++ more) n = some (rest ++ more) := by
  rw [sliceFrom, ite_none_right_eq_some, some.injEq] at hRest
  rcases hRest with ⟨hLe, rfl⟩
  rw [sliceFrom_of_le (by rw [length_append]; omega), drop_append_of_le_length hLe]

lemma head?_append_of_some {byte : UInt8} (hByte : buf.head? = some byte) :
  (buf ++ more).head? = some byte := by rw [head?_append, hByte, some_or]

lemma extensions_append {skip : Nat}
  (hName : extensions skip cur = some name) : extensions skip (cur ++ more) = some name := by
  fun_induction extensions skip cur with
  | case1 | case3 => cases hName
  | case2 _ _ _ ih => exact ih hName
  | case4 byte rest _ hLong ih =>
    have hLong : ¬ (byte :: rest ++ more).length < 4 := by
      rw [length_append]
      change ¬ (byte :: rest).length < 4 at hLong
      omega
    rw [cons_append, extensions, ← cons_append, if_neg hLong]
    simp only [bind_eq_bind, bind_eq_some_iff] at hName ⊢
    rcases hName with ⟨extType, hType, extLen, hLen, ext, hExt, hBody⟩
    refine ⟨extType, be16_append more hType, extLen, be16_append more hLen, ext,
      slice_append more hExt, ?_⟩
    split
    next hOther =>
      rw [if_pos hOther] at hBody
      exact ih extLen hBody
    next hServer =>
      rw [if_neg hServer] at hBody
      cases hList : serverNameList ext with
      | some =>
        rw [hList] at hBody
        exact hBody
      | none =>
        rw [hList] at hBody
        exact ih extLen hBody

/- A name stays what it is when more bytes come. -/
lemma tlsSni_append (hName : tlsSni buf = some name) : tlsSni (buf ++ more) = some name := by
  simp only [tlsSni, ite_none_left_eq_some, Bool.or_eq_true, not_or, decide_eq_true_eq,
    Nat.not_lt, bne_iff_ne, not_not, bind_eq_bind, bind_eq_some_iff] at hName ⊢
  rcases hName with ⟨⟨hFive, hKind⟩, ⟨hMessage, _⟩, len, hLen, cur, hCur, hRandom,
    sidLen, hSid, c₁, hC₁, csLen, hCs, c₂, hC₂, cmLen, hCm, c₃, hC₃, total, hTotal, c₄, hC₄, hName⟩
  rw [drop_append_of_le_length hFive]
  refine ⟨⟨by rw [length_append]; omega, head?_append_of_some more hKind⟩,
    ⟨head?_append_of_some more hMessage, by rw [length_append]; omega⟩,
    len, be24_append more hLen, _, sliceFrom_append more hCur,
    by rw [length_append]; omega, sidLen, ?_⟩
  rw [drop_append_of_le_length hRandom]
  exact ⟨head?_append_of_some more hSid, _, sliceFrom_append more hC₁, csLen, be16_append more hCs,
    _, sliceFrom_append more hC₂, cmLen, head?_append_of_some more hCm, _, sliceFrom_append more
    hC₃, total, be16_append more hTotal, _, sliceFrom_append more hC₄, extensions_append more hName⟩

end Append

-- Whole Hellos

lemma be16_u16ToBe (v : UInt16) (rest : Bytes) : be16 (u16ToBe v ++ rest) 0 = some v.toNat := by
  rw [← u16FromBe_toBe v, toNat_u16FromBe, u16FromBe_toBe]
  rfl

lemma length_counted (body : Bytes) : (counted body).length = 2 + body.length := by
  rw [counted, length_append]
  rfl

lemma be16_counted (hLe : body.length ≤ 65535) (rest : Bytes) :
  be16 (counted body ++ rest) 0 = some body.length := by
  rw [counted, append_assoc, be16_u16ToBe, UInt16.toNat_ofNat', Nat.mod_eq_of_lt (by omega)]

lemma drop_of_length (hLen : part.length = n) (rest : Bytes) :
  sliceFrom (part ++ rest) n = some rest := by
  rw [← hLen, sliceFrom_of_le (by rw [length_append]; omega), drop_left]

lemma sliceFrom_byteCounted (hLe : body.length ≤ 255) (rest : Bytes) :
  sliceFrom (byteCounted body ++ rest) (1 + (UInt8.ofNat body.length).toNat) = some rest := by
  refine drop_of_length ?_ rest
  rw [UInt8.toNat_ofNat', byteCounted, length_cons]
  omega

lemma slice_part (front part rest : Bytes) :
  slice (front ++ (part ++ rest)) front.length part.length = some part ∧
  (front ++ (part ++ rest)).drop (front.length + part.length) = rest := by
  rw [slice_eq_some_iff, ← drop_drop, drop_left, take_left, drop_left, length_append, length_append]
  exact ⟨⟨by omega, rfl⟩, rfl⟩

lemma serverNames_bytes (n : ServerName) (hLe : n.name.length ≤ 65535)
  (rest : Bytes) : serverNames 0 (n.bytes ++ rest) =
    if n.nameType ≠ sniHostName then serverNames 0 rest
    else some (plausibleHost n.name) := by
  have hName : slice (n.bytes ++ rest) 3 n.name.length = some n.name ∧
    (n.bytes ++ rest).drop (3 + n.name.length) = rest :=
    slice_part (n.nameType :: u16ToBe (UInt16.ofNat n.name.length)) n.name rest
  have hLong := (slice_eq_some_iff.mp hName.1).1
  have hLen : be16 (n.bytes ++ rest) 1 = some n.name.length := be16_counted hLe rest
  rw [serverNames_eq, if_neg (by omega), hLen]
  simp only [hName.1, hName.2]
  rfl

lemma extensions_bytes (e : Extension) (hLe : e.body.length ≤ 65535)
  (rest : Bytes) : extensions 0 (e.bytes ++ rest) =
    if e.kind.toNat ≠ extServerName then extensions 0 rest
    else
      match serverNameList e.body with
      | some result => result
      | none => extensions 0 rest := by
  have hBody : slice (e.bytes ++ rest) 4 e.body.length = some e.body ∧
    (e.bytes ++ rest).drop (4 + e.body.length) = rest :=
    slice_part (u16ToBe e.kind ++ u16ToBe (UInt16.ofNat e.body.length)) e.body rest
  have hLong := (slice_eq_some_iff.mp hBody.1).1
  have hKind : be16 (e.bytes ++ rest) 0 = some e.kind.toNat := by
    rw [Extension.bytes, append_assoc, be16_u16ToBe]
  have hLen : be16 (e.bytes ++ rest) 2 = some e.body.length := be16_counted hLe rest
  rw [extensions_eq, if_neg (by omega), hKind, hLen]
  simp [hBody.1, hBody.2]

lemma length_bytes_le (e : Extension) : e.body.length ≤ e.bytes.length := by
  simp [Extension.bytes, counted]
  omega

lemma serverNames_of_entry
  (hEntry : HostEntry host names) (hFits : (names.flatMap ServerName.bytes).length ≤ 65535) :
  serverNames 0 (names.flatMap ServerName.bytes) = some (plausibleHost host) := by
  induction hEntry with
  | here =>
    rw [flatMap_cons, length_append, ServerName.bytes, length_cons, length_counted] at hFits
    rw [flatMap_cons, serverNames_bytes _ (by omega)]
    exact if_neg (not_not.mpr rfl)
  | there hOther _ ih =>
    rw [flatMap_cons, length_append, ServerName.bytes, length_cons, length_counted] at hFits
    rw [flatMap_cons, serverNames_bytes _ (by omega), if_pos hOther]
    exact ih (by omega)

lemma extensions_of_lists
  (hLists : ListsHost host exts) (hFits : (exts.flatMap Extension.bytes).length ≤ 65535)
  (more : Bytes) : extensions 0 (exts.flatMap Extension.bytes ++ more) = plausibleHost host := by
  induction hLists with
  | @here names _ hEntry =>
    rw [flatMap_cons, length_append] at hFits
    have hBody := length_bytes_le (serverNameExtension names)
    have hNames : (names.flatMap ServerName.bytes).length + 2 ≤
      (serverNameExtension names).body.length := by
      rw [serverNameExtension, length_counted]
      omega
    have hList : serverNameList (serverNameExtension names).body =
      serverNames 0 (names.flatMap ServerName.bytes) := by
      have hLen := be16_counted (show (names.flatMap ServerName.bytes).length ≤ 65535 by omega) []
      rw [append_nil] at hLen
      rw [serverNameList, serverNameExtension, hLen]
      rfl
    rw [flatMap_cons, append_assoc, extensions_bytes _ (by omega),
      hList, serverNames_of_entry hEntry (by omega)]
    rfl
  | @there e _ hOther _ ih =>
    rw [flatMap_cons, length_append] at hFits
    have hBody := length_bytes_le e
    rw [flatMap_cons, append_assoc, extensions_bytes _ (by omega), if_pos hOther]
    exact ih (by omega)

lemma tlsSni_record (m : Hello) (more : Bytes) : tlsSni (m.record ++ more) =
  extensions 0 (m.extensions.flatMap Extension.bytes ++ more) := by
  have hFits := m.fits
  simp only [helloBody, length_append, length_counted] at hFits
  have hBody : m.body ++ more = (u16ToBe m.version ++ m.random) ++
    (byteCounted m.sessionId ++ (counted m.cipherSuites ++ (byteCounted m.compression ++
    (counted (m.extensions.flatMap Extension.bytes) ++ more)))) := by
    simp [Hello.body, helloBody]
  have hStart : (u16ToBe m.version ++ m.random).length = 2 + 32 := by
    rw [length_append, m.random_length]
    rfl
  have hLong : ¬ (m.body ++ more).length < 2 + 32 := by
    rw [hBody, length_append, hStart]
    omega
  have hHandshake : (m.record ++ more).drop 5 = m.handshake ++ more := rfl
  have hLen : ∃ len, be24 (m.handshake ++ more) 1 = some len := ⟨_, rfl⟩
  rcases hLen with ⟨len, hLen⟩
  have hCur : sliceFrom (m.handshake ++ more) 4 = some (m.body ++ more) :=
    sliceFrom_of_le (by simp [Hello.handshake])
  rw [tlsSni, if_neg (by simp [Hello.record, counted, Hello.handshake, u16ToBe]), hHandshake]
  dsimp only
  rw [if_neg (by simp [Hello.handshake]), hLen, hCur, bind_eq_bind,
    bind_some, bind_eq_bind, bind_some, if_neg hLong, hBody,
    drop_left' hStart]
  have hSession : ∀ part rest :
    Bytes, (byteCounted part ++ rest).head? = some (UInt8.ofNat part.length) := fun _ _ => rfl
  simp only [hSession, bind_eq_bind, bind_some,
    sliceFrom_byteCounted m.sessionId_le, sliceFrom_byteCounted m.compression_le,
    be16_counted (show m.cipherSuites.length ≤ 65535 by omega),
    drop_of_length (length_counted m.cipherSuites), be16_counted (show
      (m.extensions.flatMap Extension.bytes).length ≤ 65535 by omega)]
  rw [counted, append_assoc, drop_of_length (show (u16ToBe _).length = 2 from rfl), bind_some]

lemma tlsSni_of_lists {m : Hello} (hLists : ListsHost host m.extensions)
  (more : Bytes) : tlsSni (m.record ++ more) = plausibleHost host := by
  have hFits := m.fits
  simp only [helloBody, length_append, length_counted] at hFits
  rw [tlsSni_record, extensions_of_lists hLists (by omega)]

/-
  The reader finds the name of every hello, with any bytes behind; it never panics; and a name
  that it finds in the front of a stream it finds in every longer one.
-/
theorem sni_is_complete :
    (∀ (m : Hello) host more,
      ListsHost host m.extensions → tlsSni (m.record ++ more) = plausibleHost host) ∧
    (∀ buf, Checked.tlsSni buf = some (tlsSni buf)) ∧
    ∀ buf more name, tlsSni buf = some name → tlsSni (buf ++ more) = some name :=
  ⟨fun _ _ more hLists => tlsSni_of_lists hLists more, Checked.tlsSni_eq,
    fun _ more _ => tlsSni_append more⟩

def sampleHello : Hello :=
  ⟨0x0301, 0x0303, replicate 32 0, [], [0x13, 1], [0], [⟨10, [0, 0]⟩,
    serverNameExtension [⟨1, [7]⟩, ⟨sniHostName, ascii "www.example.org"⟩]],
    rfl, by decide, by decide, by decide +kernel⟩

/- The host is the second name of the second extension. -/
theorem second_name_is_found :
    tlsSni (sampleHello.record ++ [1]) = plausibleHost (ascii "www.example.org") :=
  sni_is_complete.1 sampleHello _ [1] (.there (by decide) (.here (.there (by decide) .here)))

end Kourosh.Routing
