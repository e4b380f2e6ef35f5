import Cmon.AddressBook.Contact
import Cmon.App.MainApp
import Cmon.Library.Run

/-!
# Resolver — the worker

The queue of requests of `CResolverModel` and the thread that works on it, in any interleaving
with `resolve` and `shutdown` on the main thread.  What is done under a lock is one step.

* `NumberResolver`: the two kinds of resolvers.  What the tables of an address book and a page of
  the web make of a number is theirs; both leave the contact alone when they do not find it.
* `processRequest_eq`: a request is answered by the first resolver that matches.
* `ResolverWorker.Sound`: the semaphore counts the requests, until a shutdown is asked for.
* `ResolverWorker.sound_run`: what the worker has done in any run.
-/

namespace Cmon
open Library

/-! ### Resolvers -/

/-- What `resolve` of an address book finds for a number: no number that matches, one whose
contact cannot be read, or one with its contact. -/
inductive BookAnswer where
  | noMatch
  | unread
  | found (contactref : Int) (texts : ContactTexts)
  deriving DecidableEq, Repr

/-- A resolver, with what its address book or its page answers to a number. -/
inductive NumberResolver where
  | addressbook (enabled : Bool) (book : String → BookAnswer)
  | onlineRegex (enabled : Bool) (page : String → Option String)

namespace NumberResolver

def getType : NumberResolver → ResolverType
  | addressbook _ _ => .addressbook
  | onlineRegex _ _ => .onlineRegex

def isEnabled : NumberResolver → Bool
  | addressbook enabled _ | onlineRegex enabled _ => enabled

/-- `CAddressBookResolver::resolve` and `CRegExWebResolver::resolve`: whether the number was
found, and the contact that is left. -/
def resolve (strNumber : String) (resolvedContact : Contact) : NumberResolver → Bool × Contact
  | addressbook _ book =>
      match book strNumber with
      | .noMatch => (false, resolvedContact)
      | .unread => (true, resolvedContact)
      | .found contactref texts =>
          (true, (resolvedContact.setDbKey contactref).setTexts texts)
  | onlineRegex enabled page =>
      if !enabled then (false, resolvedContact)
      else
        match page strNumber with
        | none => (false, resolvedContact)
        | some strResolvedName => (true, resolvedContact.setSN strResolvedName)

end NumberResolver

/-- `TResolveRequest`. -/
structure ResolveRequest where
  callId : Nat
  userData : Nat
  numberNational : String
  numberE164 : String
  onlineResolvable : Bool
  deriving DecidableEq, Repr

/-- A call of `resolverResponse`. -/
structure ResolverAnswer where
  callId : Nat
  userData : Nat
  contact : Contact
  deriving DecidableEq, Repr

/-- `processRequest`, the loop: the contact when one was found. -/
def findContact (req : ResolveRequest) : List NumberResolver → Contact → Option Contact
  | [], _ => none
  | pR :: rs, resolvedContact =>
      if pR.isEnabled then
        let isOnlineResolver := pR.getType = .onlineRegex
        if isOnlineResolver then
          if !req.onlineResolvable then findContact req rs resolvedContact
          else
            let (bFound, resolvedContact) := pR.resolve req.numberNational resolvedContact
            if bFound then some resolvedContact else findContact req rs resolvedContact
        else
          let (bFound, resolvedContact) := pR.resolve req.numberE164 resolvedContact
          if bFound then some resolvedContact else findContact req rs resolvedContact
      else findContact req rs resolvedContact

/-- `processRequest`: the response, if there is one. -/
def processRequest (req : ResolveRequest) (resolvers : List NumberResolver) :
    Option ResolverAnswer :=
  (findContact req resolvers Contact.create).map fun resolvedContact =>
    ⟨req.callId, req.userData, resolvedContact⟩

/-! ### The first that matches -/

/-- The number a resolver is asked for. -/
def ResolveRequest.number (req : ResolveRequest) (r : NumberResolver) : String :=
  match r.getType with
  | .onlineRegex => req.numberNational
  | .addressbook => req.numberE164

/-- The resolver is asked: it is enabled, and an online resolver may be asked for the number. -/
def ResolveRequest.Eligible (req : ResolveRequest) (r : NumberResolver) : Prop :=
  r.isEnabled = true ∧ (r.getType = .onlineRegex → req.onlineResolvable = true)

instance (req : ResolveRequest) (r : NumberResolver) : Decidable (req.Eligible r) :=
  inferInstanceAs (Decidable (_ ∧ _))

/-- What a resolver makes of the number for a new contact. -/
def ResolveRequest.ask (req : ResolveRequest) (r : NumberResolver) : Bool × Contact :=
  r.resolve (req.number r) Contact.create

/-- The response with the contact of the first eligible resolver that matches. -/
def ResolveRequest.answer (req : ResolveRequest) (resolvers : List NumberResolver) :
    Option ResolverAnswer :=
  (resolvers.find? fun r => req.Eligible r ∧ (req.ask r).1 = true).map fun r =>
    ⟨req.callId, req.userData, (req.ask r).2⟩

/-- A resolver that does not find the number leaves the contact alone. -/
theorem NumberResolver.resolve_false {strNumber : String} {c : Contact} {r : NumberResolver}
    (h : (r.resolve strNumber c).1 = false) : (r.resolve strNumber c).2 = c := by
  cases r with
  | addressbook enabled book =>
      rw [resolve] at h ⊢
      cases hb : book strNumber with
      | noMatch => rfl
      | unread => rfl
      | found contactref texts =>
          rw [hb] at h
          cases h
  | onlineRegex enabled page =>
      rw [resolve] at h ⊢
      cases enabled with
      | false => rfl
      | true =>
          cases hp : page strNumber with
          | none => rfl
          | some strResolvedName =>
              rw [hp] at h
              cases h

/-- A turn of the loop. -/
theorem findContact_cons (req : ResolveRequest) (r : NumberResolver) (rs : List NumberResolver)
    (c : Contact) : findContact req (r :: rs) c =
      if req.Eligible r then
        if (r.resolve (req.number r) c).1 = true then some (r.resolve (req.number r) c).2
        else findContact req rs (r.resolve (req.number r) c).2
      else findContact req rs c := by
  cases r with
  | addressbook enabled book =>
      cases enabled with
      | false => rfl
      | true =>
          rw [if_pos ⟨rfl, (nomatch ·)⟩]
          rfl
  | onlineRegex enabled page =>
      cases enabled with
      | false => rfl
      | true =>
          cases ho : req.onlineResolvable with
          | false =>
              rw [if_neg fun h => by cases ho.symm.trans (h.2 rfl)]
              simp [findContact, NumberResolver.isEnabled, NumberResolver.getType, ho]
          | true =>
              rw [if_pos ⟨rfl, fun _ => ho⟩]
              simp only [findContact, NumberResolver.isEnabled, NumberResolver.getType, ho]
              rfl

/-- The contact of the first eligible resolver that matches. -/
theorem findContact_eq (req : ResolveRequest) (resolvers : List NumberResolver) :
    findContact req resolvers Contact.create =
      (resolvers.find? fun r => req.Eligible r ∧ (req.ask r).1 = true).map fun r =>
        (req.ask r).2 := by
  induction resolvers with
  | nil => rfl
  | cons r rs ih =>
      rw [findContact_cons, List.find?_cons, ← ResolveRequest.ask]
      by_cases he : req.Eligible r
      · by_cases hfound : (req.ask r).1 = true
        · simp [he, hfound]
        · -- the contact is still a new one
          have hnew : (req.ask r).2 = Contact.create :=
            NumberResolver.resolve_false (Bool.eq_false_iff.mpr hfound)
          simp [he, hfound, hnew, ih]
      · simp [he, ih]

/-- **A request is answered by the first resolver that matches.** -/
theorem processRequest_eq (req : ResolveRequest) (resolvers : List NumberResolver) :
    processRequest req resolvers = req.answer resolvers := by
  rw [processRequest, findContact_eq, ResolveRequest.answer, Option.map_map]
  rfl

/-! ### The queue and the thread -/

/-- Where the thread stands in `Entry`. -/
inductive WorkerPlace where
  /-- In front of `TestDestroy`; nothing calls `Delete`. -/
  | test
  /-- In `m_semaQ.Wait()`. -/
  | wait
  /-- In front of `!m_bTerminate`. -/
  | check
  /-- In front of the locked section that takes a request. -/
  | pop
  | process (req : ResolveRequest)
  | ended
  /-- After `front()` or `pop_front()` of an empty list. -/
  | undefined
  deriving DecidableEq, Repr

/-- Where the main thread stands in `shutdown`: outside, in front of `Post` or in
`GetThread()->Wait()`. -/
inductive ShutdownPlace where
  | outside | posting | waiting
  deriving DecidableEq, Repr

/-- `CResolverModel`, as far as the queue is concerned. -/
structure ResolverWorker where
  /-- `m_RequestList`. -/
  requestList : List ResolveRequest
  /-- The count of `m_semaQ`. -/
  semaQ : Nat
  /-- `m_bTerminate`. -/
  terminate : Bool
  place : WorkerPlace
  shutdown : ShutdownPlace
  /-- All requests that `resolve` has queued. -/
  queued : List ResolveRequest
  /-- The requests that were processed, each with the resolvers it was processed with. -/
  processed : List (ResolveRequest × List NumberResolver)
  /-- The calls of `resolverResponse`. -/
  responses : List ResolverAnswer

/-- What happens next. -/
inductive WorkerEvent where
  /-- `resolve`, the locked section. -/
  | resolve (req : ResolveRequest)
  /-- `shutdown`, when the thread is running: `m_bTerminate = true`. -/
  | shutdown
  /-- `shutdown`, `m_semaQ.Post()`. -/
  | post
  /-- `shutdown`, the thread has ended. -/
  | waited
  /-- The worker's next step; `rc` says whether `Wait` succeeds, and `resolvers` is what
  `processRequest` finds in `m_Resolvers`. -/
  | worker (rc : Bool) (resolvers : List NumberResolver)

namespace ResolverWorker

/-- After the constructor. -/
def start : ResolverWorker := ⟨[], 0, false, .test, .outside, [], [], []⟩

/-- `Entry`, a step.  `Wait` blocks while the count is 0. -/
def entry (s : ResolverWorker) (rc : Bool) (resolvers : List NumberResolver) : ResolverWorker :=
  match s.place with
  | .test => { s with place := .wait }
  | .wait =>
      if rc then
        if 0 < s.semaQ then { s with semaQ := s.semaQ - 1, place := .check } else s
      else { s with place := .test }
  | .check => if !s.terminate then { s with place := .pop } else { s with place := .ended }
  | .pop =>
      match s.requestList with
      | [] => { s with place := .undefined }
      | req :: requestList => { s with requestList, place := .process req }
  | .process req =>
      { s with
        place := .test
        processed := s.processed ++ [(req, resolvers)]
        responses := s.responses ++ (processRequest req resolvers).toList }
  | .ended | .undefined => s

/-- One event.  What cannot happen where the threads stand changes nothing. -/
def step (s : ResolverWorker) : WorkerEvent → ResolverWorker
  | .resolve req =>
      { s with
        requestList := s.requestList ++ [req]
        semaQ := s.semaQ + 1
        queued := s.queued ++ [req] }
  | .shutdown =>
      if s.shutdown = .outside ∧ s.place ≠ .ended then
        { s with terminate := true, shutdown := .posting }
      else s
  | .post =>
      if s.shutdown = .posting then { s with semaQ := s.semaQ + 1, shutdown := .waiting } else s
  | .waited =>
      if s.shutdown = .waiting ∧ s.place = .ended then { s with shutdown := .outside } else s
  | .worker rc resolvers => s.entry rc resolvers

/-- The posts that the worker has waited for and not yet used. -/
def held (s : ResolverWorker) : Nat :=
  match s.place with
  | .check | .pop => 1
  | _ => 0

/-- The request that was taken and is not yet processed. -/
def current (s : ResolverWorker) : List ResolveRequest :=
  match s.place with
  | .process req => [req]
  | _ => []

/-- The semaphore counts the requests until a shutdown is asked for, a request is taken when there
is one, and what was queued is what was processed and what waits, in this order. -/
structure Sound (s : ResolverWorker) : Prop where
  outside : s.terminate = false → s.shutdown = .outside
  counted : s.terminate = false → s.semaQ + s.held = s.requestList.length
  front : s.place = .pop → s.requestList ≠ []
  defined : s.place ≠ .undefined
  order : s.queued = s.processed.map (·.1) ++ s.current ++ s.requestList
  answered : s.responses = s.processed.filterMap fun p => p.1.answer p.2

theorem sound_start : Sound start :=
  ⟨fun _ => rfl, fun _ => rfl, (nomatch ·), (nomatch ·), rfl, rfl⟩

/-- A step of the worker. -/
theorem Sound.entry {s : ResolverWorker} (h : Sound s) (rc : Bool)
    (resolvers : List NumberResolver) : Sound (s.entry rc resolvers) := by
  obtain ⟨requestList, semaQ, terminate, place, shutdown, queued, processed, responses⟩ := s
  obtain ⟨outside, counted, front, defined, order, answered⟩ := h
  cases place with
  | test => exact ⟨outside, counted, (nomatch ·), (nomatch ·), order, answered⟩
  | wait =>
      simp only [ResolverWorker.entry]
      split
      · split
        · rename_i hpos
          refine ⟨outside, fun ht => ?_, (nomatch ·), (nomatch ·), order, answered⟩
          have hc := counted ht
          simp only [held] at hc ⊢
          omega
        · exact ⟨outside, counted, (nomatch ·), (nomatch ·), order, answered⟩
      · exact ⟨outside, counted, (nomatch ·), (nomatch ·), order, answered⟩
  | check =>
      cases terminate with
      | true => exact ⟨(nomatch ·), (nomatch ·), (nomatch ·), (nomatch ·), order, answered⟩
      | false =>
          -- no shutdown was asked for when the post was taken, so it was that of a request
          refine ⟨outside, counted, fun _ hnil => ?_, (nomatch ·), order, answered⟩
          have hc := counted rfl
          subst hnil
          cases hc
  | pop =>
      cases requestList with
      | nil => exact absurd rfl (front rfl)
      | cons req requestList =>
          refine ⟨outside, fun ht => ?_, (nomatch ·), (nomatch ·), ?_, answered⟩
          · have hc := counted ht
            simp only [ResolverWorker.entry, held, List.length_cons] at hc ⊢
            omega
          · simpa [ResolverWorker.entry, current] using order
  | process req =>
      refine ⟨outside, counted, (nomatch ·), (nomatch ·), ?_, ?_⟩
      · simpa [ResolverWorker.entry, current] using order
      · have ha : responses = _ := answered
        simp only [ResolverWorker.entry, List.filterMap_append, ← ha, processRequest_eq]
        cases hr : req.answer resolvers <;> simp [hr]
  | ended => exact ⟨outside, counted, front, (nomatch ·), order, answered⟩
  | undefined => exact absurd rfl defined

theorem Sound.step {s : ResolverWorker} (h : Sound s) (e : WorkerEvent) : Sound (s.step e) := by
  cases e with
  | resolve req =>
      refine ⟨h.outside, fun ht => ?_, fun _ => by simp [ResolverWorker.step], h.defined, ?_,
        h.answered⟩
      · have hc := h.counted ht
        show s.semaQ + 1 + s.held = (s.requestList ++ [req]).length
        rw [List.length_append, List.length_singleton]
        omega
      · show s.queued ++ [req] = _ ++ s.current ++ (s.requestList ++ [req])
        rw [h.order, List.append_assoc _ s.requestList]
        rfl
  | shutdown =>
      rw [ResolverWorker.step]
      split
      · exact ⟨(nomatch ·), (nomatch ·), h.front, h.defined, h.order, h.answered⟩
      · exact h
  | post =>
      rw [ResolverWorker.step]
      split
      · rename_i hp
        have hterm : s.terminate ≠ false := fun ht => by cases hp.symm.trans (h.outside ht)
        exact ⟨fun ht => absurd ht hterm, fun ht => absurd ht hterm, h.front, h.defined, h.order,
          h.answered⟩
      · exact h
  | waited =>
      rw [ResolverWorker.step]
      split
      · exact ⟨fun _ => rfl, h.counted, h.front, h.defined, h.order, h.answered⟩
      · exact h
  | worker rc resolvers => exact h.entry rc resolvers

/-- **What the worker does in any run**: it takes requests of a list that is not empty only, in
the order in which they were queued and each once, it waits only when there are none, until a
shutdown is asked for, and it answers each with the contact of the first resolver that matches, or
not at all. -/
theorem sound_run (evs : List WorkerEvent) :
    let s := run step start evs
    (s.place ≠ .undefined ∧ (s.place = .pop → s.requestList ≠ [])) ∧
      s.queued = s.processed.map (·.1) ++ s.current ++ s.requestList ∧
      (s.terminate = false → s.place = .wait → s.semaQ = 0 → s.requestList = []) ∧
      s.responses = s.processed.filterMap fun p => p.1.answer p.2 := by
  intro s
  have h : Sound s := run_inv (I := Sound) (fun _ e h => h.step e) sound_start evs
  refine ⟨⟨h.defined, h.front⟩, h.order, fun ht hp hz => ?_, h.answered⟩
  have hc := h.counted ht
  rw [hz, held, hp] at hc
  exact List.length_eq_zero_iff.mp hc.symm

end ResolverWorker
end Cmon
