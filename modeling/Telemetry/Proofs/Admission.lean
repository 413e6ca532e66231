import Telemetry.Proofs.Responses
import Telemetry.Proofs.Visits
/-!
Who is admitted, and what everybody else learns. A caller gets past admission if the first address
that the request states agrees with the base of the trusted subnet in its first bits, and not
otherwise (`Net.Subnet.Admits`). Everybody else leaves the session as it is and is told nothing but
the address that was stated and what the routes tell of themselves (`Application.guards`).
-/

namespace Telemetry

/-! ### Subnets by their bits -/

namespace Net

/-- Two addresses of one family with the same first bits. -/
def Address.Agrees (length : Nat) : Address → Address → Prop
  | .v4 left, .v4 right => ∀ index < length, left.getMsbD index = right.getMsbD index
  | .v6 left, .v6 right => ∀ index < length, left.getMsbD index = right.getMsbD index
  | _, _ => False

def Address.width : Address → Nat
  | .v4 _ => 32
  | .v6 _ => 128

/-- A number that is read is below the limit of the reader. -/
theorem Address.readNumber?_lt {radix most limit : Nat} {leadingZeros : Bool}
    {text rest : List Char} {value : Nat}
    (read : readNumber? radix most limit leadingZeros text = some (value, rest)) :
    value < limit := by
  simp only [readNumber?] at read
  split at read
  · cases read
  · split at read
    · cases read
    · split at read
      · cases read
        assumption
      · cases read

namespace Subnet

def base : Subnet → Address
  | .v4 bits _ => .v4 bits
  | .v6 bits _ => .v6 bits

def length : Subnet → Nat
  | .v4 _ length => length
  | .v6 _ length => length

/-- A subnet as the first bits of its base make it: all addresses of the family if there are none
of them, one address if there are no others, and otherwise the same whatever the others are. -/
structure IsExact (subnet : Subnet) : Prop where
  bounded : subnet.length ≤ subnet.base.width
  contains_iff : ∀ address, subnet.contains address = true ↔
    subnet.base.Agrees subnet.length address
  whole : subnet.length = 0 → ∀ address, subnet.contains address = true ↔
    address.width = subnet.base.width
  single : subnet.length = subnet.base.width → ∀ address, subnet.contains address = true ↔
    address = subnet.base
  hostBits : ∀ other : Subnet, other.length = subnet.length →
    subnet.base.Agrees subnet.length other.base →
      ∀ address, other.contains address = subnet.contains address

/-- Numbers agree after the shift that leaves only their first bits if these bits agree. -/
theorem agree_eq_true_iff {width : Nat} (length : Nat) (left right : BitVec width) :
    agree length left right = true ↔
      ∀ index < length, left.getMsbD index = right.getMsbD index := by
  rw [agree, beq_iff_eq]
  constructor
  · intro same index first
    by_cases inside : index < width
    · have bit := congrArg
        (fun bits => BitVec.getLsbD bits (width - 1 - index - (width - length))) same
      have place : width - length + (width - 1 - index - (width - length)) = width - 1 - index := by
        omega
      simp only [BitVec.getLsbD_ushiftRight, place] at bit
      simp only [BitVec.getMsbD, inside, decide_true, Bool.true_and, bit]
    · simp only [BitVec.getMsbD, inside, decide_false, Bool.false_and]
  · intro same
    apply BitVec.eq_of_getLsbD_eq
    intro place inside
    rw [BitVec.getLsbD_ushiftRight, BitVec.getLsbD_ushiftRight]
    by_cases within : width - length + place < width
    · have bit := same (width - 1 - (width - length + place)) (by omega)
      have back : width - 1 - (width - 1 - (width - length + place)) = width - length + place := by
        omega
      have below : width - 1 - (width - length + place) < width := by omega
      simpa only [BitVec.getMsbD, below, decide_true, Bool.true_and, back] using bit
    · rw [BitVec.getLsbD_of_ge _ _ (Nat.not_lt.mp within),
        BitVec.getLsbD_of_ge _ _ (Nat.not_lt.mp within)]

theorem contains_iff (subnet : Subnet) (address : Address) :
    subnet.contains address = true ↔ subnet.base.Agrees subnet.length address := by
  cases subnet with
  | v4 bits length =>
    cases address with
    | v4 stated => exact agree_eq_true_iff length bits stated
    | v6 stated => exact iff_of_false nofun id
  | v6 bits length =>
    cases address with
    | v4 stated => exact iff_of_false nofun id
    | v6 stated => exact agree_eq_true_iff length bits stated

theorem length_lt_of_read {most limit length : Nat} {rest : List Char}
    (read : (do
      match ← Address.readNumber? 10 most limit true (← Address.readLetter? '/' rest) with
      | (length, []) => some length
      | _ => none) = some length) : length < limit := by
  simp only [Option.bind_eq_bind, Option.bind_eq_some_iff] at read
  obtain ⟨_digits, _slash, ⟨number, after⟩, numeral, last⟩ := read
  cases after with
  | nil =>
    cases last
    exact Address.readNumber?_lt numeral
  | cons letter letters => cases last

theorem bounded_of_ofText? {text : String} {subnet : Subnet} (read : ofText? text = some subnet) :
    subnet.length ≤ subnet.base.width := by
  simp only [ofText?] at read
  split at read
  · split at read
    · rename_i length stated
      cases read
      exact Nat.lt_succ_iff.mp (length_lt_of_read stated)
    · cases read
  · obtain ⟨⟨bits, rest⟩, _colons, last⟩ := Option.bind_eq_some_iff.mp read
    obtain ⟨length, stated, same⟩ := Option.bind_eq_some_iff.mp last
    cases same
    exact Nat.lt_succ_iff.mp (length_lt_of_read stated)

end Subnet

namespace Address

theorem Agrees.symm {length : Nat} {left right : Address} (same : left.Agrees length right) :
    right.Agrees length left := by
  cases left <;> cases right <;>
    first
    | exact same
    | exact fun index first => (same index first).symm

theorem Agrees.trans {length : Nat} {left middle right : Address}
    (first : left.Agrees length middle) (second : middle.Agrees length right) :
    left.Agrees length right := by
  cases left <;> cases middle <;> cases right <;>
    first
    | exact first.elim
    | exact second.elim
    | exact fun index inside => (first index inside).trans (second index inside)

theorem agrees_zero_iff {left right : Address} :
    left.Agrees 0 right ↔ right.width = left.width := by
  cases left <;> cases right <;> simp [Agrees, width]

theorem agrees_width_iff {left right : Address} :
    left.Agrees left.width right ↔ right = left := by
  constructor
  · intro same
    cases left <;> cases right <;>
      first
      | exact same.elim
      | exact congrArg _ (BitVec.eq_of_getMsbD_eq same).symm
  · rintro rfl
    cases right <;> exact fun _index _first => rfl

end Address

theorem Subnet.isExact {text : String} {subnet : Subnet} (read : ofText? text = some subnet) :
    subnet.IsExact where
  bounded := bounded_of_ofText? read
  contains_iff := subnet.contains_iff
  whole := by
    intro empty address
    rw [contains_iff, empty, Address.agrees_zero_iff]
  single := by
    intro all address
    rw [contains_iff, all, Address.agrees_width_iff]
  hostBits := by
    intro other same agrees address
    rw [Bool.eq_iff_iff, contains_iff, contains_iff, same]
    exact ⟨agrees.trans, agrees.symm.trans⟩

end Net

/-! ### Callers by what they state -/

/-- The first address that headers state is visible text and, without blanks around it, an address
with the first bits of a subnet. -/
def Net.Subnet.Admits (subnet : Net.Subnet) (headers : Headers) : Prop :=
  ∃ value shown address, (headers.values HeaderName.realAddress).head? = some value ∧
    Headers.visible? value = some shown ∧ Net.Address.ofText? (Text.trim shown) = some address ∧
      subnet.base.Agrees subnet.length address

namespace TrustedSubnet

theorem admits_iff (subnet : Net.Subnet) (headers : Headers) :
    subnet.Admits headers ↔ ∃ address, Net.Address.ofText? (stated headers) = some address ∧
      subnet.contains address = true := by
  unfold stated
  rw [Headers.text?_eq]
  constructor
  · rintro ⟨value, shown, address, first, seen, read, agrees⟩
    refine ⟨address, ?_, (subnet.contains_iff address).mpr agrees⟩
    rw [first, Option.bind_some, seen, Option.getD_some, read]
  · rintro ⟨address, read, inside⟩
    have nothing : Net.Address.ofText? (Text.trim "") = none := by decide
    cases first : (headers.values HeaderName.realAddress).head? with
    | none =>
      rw [first] at read
      exact absurd (nothing.symm.trans read) nofun
    | some value =>
      cases seen : Headers.visible? value with
      | none =>
        rw [first, Option.bind_some, seen] at read
        exact absurd (nothing.symm.trans read) nofun
      | some shown =>
        rw [first, Option.bind_some, seen, Option.getD_some] at read
        exact ⟨value, shown, address, first, seen, read, (subnet.contains_iff address).mp inside⟩

theorem check_of_admits {subnet : Net.Subnet} {headers : Headers}
    (admits : subnet.Admits headers) : check ⟨some subnet⟩ headers = .ok () := by
  obtain ⟨address, read, inside⟩ := (admits_iff subnet headers).mp admits
  simp only [check, read, inside, if_true]

theorem check_of_not_admits {subnet : Net.Subnet} {headers : Headers}
    (refused : ¬ subnet.Admits headers) :
    check ⟨some subnet⟩ headers = .error (.untrusted (stated headers)) := by
  rw [admits_iff] at refused
  simp only [check]
  cases read : Net.Address.ofText? (stated headers) with
  | none => rfl
  | some address =>
    have outside : ¬ subnet.contains address = true := fun inside => refused ⟨address, read, inside⟩
    simp only [if_neg outside]

/-- Only the first address counts. -/
theorem stated_congr {left right : Headers}
    (same : (left.values HeaderName.realAddress).head? =
      (right.values HeaderName.realAddress).head?) : stated left = stated right := by
  rw [stated, stated, Headers.text?_eq, Headers.text?_eq, same]

end TrustedSubnet

theorem Net.Subnet.admits_congr (subnet : Net.Subnet) {left right : Headers}
    (same : (left.values HeaderName.realAddress).head? =
      (right.values HeaderName.realAddress).head?) : subnet.Admits left ↔ subnet.Admits right := by
  rw [Admits, Admits, same]

/-! ### Refusals -/

/-- The gateway hands a request on as it is to whatever stands behind it. -/
def Gateway.LetsPass {σ : Type} (gateway : Gateway) (framing : Framing) (request : Http.Request)
    (session : Session σ) : Prop :=
  ∀ inner : Http.Handler σ,
    (gateway.admitting framing inner request).run session = (inner request).run session

/-- An answer that tells a caller not to be trusted. -/
def Http.Response.IsRefusal (framing : Framing) (response : Http.Response) : Prop :=
  match framing with
  | .document => response.status = 403
  | .call => ∃ message, Rpc.endedWith? response = some ⟨.unauthenticated, message⟩

/-- Two answers that say the same of two requests, if not for the headers that tell of the routes
and for the body that an answer to `HEAD` may have lost. -/
structure Http.Response.Repeats (framing : Framing) (left right : Http.Request)
    (first second : Http.Response) : Prop where
  ofCall : framing = .call → first = second
  ofRoute : left.method = right.method → left.target.path = right.target.path → first = second
  status : first.status = second.status
  trailers : first.trailers = second.trailers
  headers : ∀ name, name ≠ "allow" → name ≠ HeaderName.contentLength →
    first.headers.values name = second.headers.values name
  body : left.method ≠ "HEAD" → right.method ≠ "HEAD" → first.body = second.body

namespace Application

variable {σ : Type}

/-- What is added in front of the gateway leaves everything else alone. -/
theorem repeats_finished (framing : Framing) (left right : Http.Request)
    (response : Http.Response) :
    Http.Response.Repeats framing left right (finished framing left response)
      (finished framing right response) := by
  have headers : ∀ request : Http.Request, ∀ name, name ≠ "allow" →
      name ≠ HeaderName.contentLength →
        (finished framing request response).headers.values name = response.headers.values name := by
    intro request name notAllow notLength
    cases framing with
    | call => rfl
    | document =>
      simp only [finished]
      split
      · rfl
      · exact Http.Endpoint.values_finish _ _ _ notAllow notLength
  have trailers : ∀ request : Http.Request,
      (finished framing request response).trailers = response.trailers := by
    intro request
    cases framing with
    | call => rfl
    | document =>
      simp only [finished]
      split <;> rfl
  have body : ∀ request : Http.Request, request.method ≠ "HEAD" →
      (finished framing request response).body = response.body := by
    intro request kept
    cases framing with
    | call => rfl
    | document =>
      simp only [finished]
      split
      · rfl
      · exact if_neg fun lost => kept (beq_iff_eq.mp lost)
  constructor
  · rintro rfl
    rfl
  · intro method path
    simp only [finished, method, path]
  · rw [status_finished, status_finished]
  · rw [trailers, trailers]
  · intro name notAllow notLength
    rw [headers left name notAllow notLength, headers right name notAllow notLength]
  · intro leftKept rightKept
    rw [body left leftKept, body right rightKept]

theorem isRefusal_finished (framing : Framing) (request : Http.Request) (source : String) :
    (finished framing request (framing.reject (.untrusted source))).IsRefusal framing := by
  cases framing with
  | call => exact ⟨_, (Rpc.states_ending ⟨.unauthenticated, _⟩).endedWith?⟩
  | document => exact status_finished .document request _

/-- The application with everybody admitted. -/
def unguarded (application : Application σ) : Application σ :=
  { application with gateway := { application.gateway with trusted := ⟨none⟩ } }

/-- An application that admits whom a subnet admits, and tells others only that it does not. -/
structure Guards (application : Application σ) (subnet : Net.Subnet) : Prop where
  exact : subnet.IsExact
  admits : ∀ framing request (session : Session σ),
    application.gateway.LetsPass framing request session ↔ subnet.Admits request.headers
  passes : ∀ framing trace request session, subnet.Admits request.headers →
    (application.answer framing trace request).run session =
      (application.unguarded.answer framing trace request).run session
  refuses : ∀ framing trace request session, ¬ subnet.Admits request.headers →
    ∃ response, (application.answer framing trace request).run session = (response, session) ∧
      response.IsRefusal framing
  repeats : ∀ framing (left right : Http.Request),
    (left.headers.values HeaderName.realAddress).head? =
      (right.headers.values HeaderName.realAddress).head? →
    ¬ subnet.Admits left.headers → ∀ leftTrace rightTrace leftSession rightSession,
      Http.Response.Repeats framing left right
        ((application.answer framing leftTrace left).run leftSession).1
        ((application.answer framing rightTrace right).run rightSession).1

variable {application : Application σ} {subnet : Net.Subnet} {framing : Framing}
  {request : Http.Request}

theorem answer_of_not_admits (guarded : application.gateway.trusted = ⟨some subnet⟩)
    (refused : ¬ subnet.Admits request.headers) (trace : String) (session : Session σ) :
    (application.answer framing trace request).run session =
      (finished framing request
        (framing.reject (.untrusted (TrustedSubnet.stated request.headers))), session) := by
  have checked := TrustedSubnet.check_of_not_admits refused
  rw [← guarded] at checked
  rw [answer_run]
  simp only [Gateway.around, Gateway.admitting, checked]
  rfl

theorem letsPass_iff (guarded : application.gateway.trusted = ⟨some subnet⟩)
    (session : Session σ) :
    application.gateway.LetsPass framing request session ↔ subnet.Admits request.headers := by
  constructor
  · intro passes
    by_contra refused
    have checked := TrustedSubnet.check_of_not_admits refused
    rw [← guarded] at checked
    -- Two handlers would have to answer the same, whatever they are.
    have same : ∀ inner : Http.Handler σ, (inner request).run session =
        (framing.reject (.untrusted (TrustedSubnet.stated request.headers)), session) := by
      intro inner
      rw [← passes inner]
      simp only [Gateway.admitting, checked]
      rfl
    have found := same fun _request => return .bare 200
    have lost := same fun _request => return .bare 404
    have equal : (200 : Nat) = 404 :=
      congrArg (fun answer => answer.1.status) (found.trans lost.symm)
    cases equal
  · intro admits inner
    have checked := TrustedSubnet.check_of_admits admits
    rw [← guarded] at checked
    simp only [Gateway.admitting, checked]

theorem answer_of_admits (guarded : application.gateway.trusted = ⟨some subnet⟩)
    (admits : subnet.Admits request.headers) (trace : String) (session : Session σ) :
    (application.answer framing trace request).run session =
      (application.unguarded.answer framing trace request).run session := by
  have checked := TrustedSubnet.check_of_admits admits
  rw [← guarded] at checked
  rw [answer_run, answer_run]
  simp only [Gateway.around, Gateway.admitting, checked]
  rfl

/-- A trusted subnet that was read from a text is guarded exactly, whatever else the server is. -/
theorem guards {text : String} (read : TrustedSubnet.ofText text = .ok ⟨some subnet⟩)
    (application : Application σ) (guarded : application.gateway.trusted = ⟨some subnet⟩) :
    application.Guards subnet := by
  have exact : subnet.IsExact := by
    simp only [TrustedSubnet.ofText] at read
    split at read
    · cases read
    · split at read
      · rename_i stated
        cases read
        exact Net.Subnet.isExact stated
      · cases read
  constructor
  · exact exact
  · intro framing request session
    exact letsPass_iff guarded session
  · intro framing trace request session admits
    exact answer_of_admits guarded admits trace session
  · intro framing trace request session refused
    exact ⟨_, answer_of_not_admits guarded refused trace session, isRefusal_finished ..⟩
  · intro framing left right same refused leftTrace rightTrace leftSession rightSession
    have alsoRefused : ¬ subnet.Admits right.headers := by rwa [← subnet.admits_congr same]
    rw [answer_of_not_admits guarded refused, answer_of_not_admits guarded alsoRefused,
      TrustedSubnet.stated_congr same]
    exact repeats_finished framing left right _

/-- A server for which the other bits of the base are not all zero. -/
def guardedServer : Application ServerStore :=
  server (.new [] none ⟨some (.v4 0xC0A80107#32 24)⟩) .never false

theorem guards_guardedServer :
    TrustedSubnet.ofText " 192.168.1.7/24 " = .ok ⟨some (.v4 0xC0A80107#32 24)⟩ ∧
      guardedServer.Guards (.v4 0xC0A80107#32 24) := by
  have read : TrustedSubnet.ofText " 192.168.1.7/24 " = .ok ⟨some (.v4 0xC0A80107#32 24)⟩ := by
    decide +kernel
  exact ⟨read, guards read guardedServer rfl⟩

/-- Someone who is not trusted asks for a path. -/
def strangerRequest (path : String) : Http.Request :=
  ⟨"POST", ⟨path, path⟩, ⟨[(HeaderName.realAddress, Bytes.ofText "10.0.0.1")]⟩, []⟩

def strangerAnswer (path : String) : Http.Response :=
  ((guardedServer.answer .document "1" (strangerRequest path)).run
    ⟨.memory ⟨.empty, none⟩, 0, []⟩).1

/-- Strangers learn which paths there are, from the length that only their answers state. -/
theorem refusals_differ :
    (strangerRequest "/update/").headers = (strangerRequest "/zzz").headers ∧
      (strangerAnswer "/update/").status = 403 ∧ (strangerAnswer "/zzz").status = 403 ∧
      strangerAnswer "/update/" ≠ strangerAnswer "/zzz" := by
  decide +kernel

end Application

end Telemetry
