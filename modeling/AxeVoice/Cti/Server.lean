import AxeVoice.Cti.Lifecycle

/-!
# The CTI server

The network worker and the user interface share the readiness flag and the
request queue.  Each reads or writes the flag, or performs one operation of the
queue, in an atomic step of its own; a move lets one of the two parties take its
next step, which begins the given call where the party is between calls.
-/

namespace AxeVoice.Cti

open Foundation

variable {width : WCharWidth}

/-- A request to the network worker: a call to place, or one to cancel. -/
inductive WorkerRequest (width : WCharWidth) where
  | post (destination : WString width) (key : IdempotencyKey)
  | cancel (id : UInt64)
  deriving DecidableEq, Repr

/-- Where the worker stands: between requests, or with the readiness it has read. -/
inductive WorkerPoint (width : WCharWidth) where
  | idle
  | sampled (ready : Bool) (destination : WString width) (key : IdempotencyKey)
  deriving DecidableEq, Repr

/-- A call of the user interface. -/
inductive GuiCall where
  | setReady (ready : Bool)
  | take
  | complete (id : UInt64) (submitted : Bool)
  deriving DecidableEq, Repr

/-- Where the user interface stands within its call. -/
inductive GuiPoint (width : WCharWidth) where
  | idle
  /-- `set_ready(false)` has stored the flag. -/
  | readinessStored
  /-- `take()` has read the flag as false. -/
  | takeRefused
  /-- `take()` has read the flag as true. -/
  | takeAdmitted
  /-- `take()` has taken a request out of the queue. -/
  | takeHolding (request : CtiPendingRequest width)
  /-- `take()` has read the flag as false after that. -/
  | takeLost (request : CtiPendingRequest width)
  deriving DecidableEq, Repr

structure LocalCtiServer (width : WCharWidth) where
  ready : Bool := false
  requests : CtiRequestQueue width := {}
  worker : WorkerPoint width := .idle
  gui : GuiPoint width := .idle
  deriving DecidableEq, Repr

/-- The step a party takes next, given the call it begins if it is between calls. -/
inductive Move (width : WCharWidth) where
  | worker (request : WorkerRequest width)
  | gui (call : GuiCall)
  deriving DecidableEq, Repr

/-- What a step did, as far as callers and observers can tell. -/
inductive Observed (width : WCharWidth) where
  | sampled (ready : Bool)
  | submitted (result : CtiSubmitResult)
  | cancelled (outcome : CtiCancelOutcome)
  | stored (ready : Bool)
  | readinessSet
  | completed (done : Bool)
  | taking
  | taken (request : Option (CtiPendingRequest width))
  deriving DecidableEq, Repr

namespace LocalCtiServer

def workerStep (server : LocalCtiServer width) (request : WorkerRequest width) :
    Observed width × LocalCtiServer width :=
  match server.worker with
  | .idle =>
      match request with
      | .post destination key =>
          (.sampled server.ready, { server with worker := .sampled server.ready destination key })
      | .cancel id =>
          let (outcome, requests) := server.requests.cancel id
          (.cancelled outcome, { server with requests := requests })
  | .sampled ready destination key =>
      let (result, requests) := server.requests.submitIdempotent destination key ready
      (.submitted result, { server with requests := requests, worker := .idle })

/-- The first step of a call of the user interface. -/
def guiBegin (server : LocalCtiServer width) :
    GuiCall → Observed width × LocalCtiServer width
  | .setReady ready =>
      (.stored ready,
        { server with ready := ready, gui := if ready then .idle else .readinessStored })
  | .take =>
      (.taking, { server with gui := if server.ready then .takeAdmitted else .takeRefused })
  | .complete id submitted =>
      let (done, requests) := server.requests.complete id submitted
      (.completed done, { server with requests := requests })

def guiStep (server : LocalCtiServer width) (call : GuiCall) :
    Observed width × LocalCtiServer width :=
  match server.gui with
  | .idle => server.guiBegin call
  | .readinessStored =>
      let (_, requests) := server.requests.rejectPending
      (.readinessSet, { server with requests := requests, gui := .idle })
  | .takeRefused =>
      let (_, requests) := server.requests.rejectPending
      (.taken none, { server with requests := requests, gui := .idle })
  | .takeAdmitted =>
      match server.requests.take with
      | (none, requests) => (.taken none, { server with requests := requests, gui := .idle })
      | (some request, requests) =>
          (.taking, { server with requests := requests, gui := .takeHolding request })
  | .takeHolding request =>
      -- a loss after the first check is also rejected
      if server.ready then (.taken (some request), { server with gui := .idle })
      else (.taking, { server with gui := .takeLost request })
  | .takeLost request =>
      let (_, requests) := server.requests.complete request.id false
      (.taken none, { server with requests := requests, gui := .idle })

end LocalCtiServer

def serverStep (server : LocalCtiServer width) :
    Move width → Observed width × LocalCtiServer width
  | .worker request => server.workerStep request
  | .gui call => server.guiStep call

end AxeVoice.Cti
