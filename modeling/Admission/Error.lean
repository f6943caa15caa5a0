import Admission.Config
import Admission.Text.Quoted

/-!
# Errors of admission and reconciliation

Each kind of failure is a cause with its particulars. Its sentence, its short label and its
description with all parts are each written in one place.
-/

namespace Admission

/-- Why a job was not scheduled. -/
inductive HandlerError where
  /-- The wait was given up because its context was cancelled. -/
  | canceled (cause : String)
  /-- What is known about the job had become stale. -/
  | staleJob
  /-- A later handler failed. -/
  | fail (error : String)
deriving DecidableEq, Repr

namespace HandlerError

/-- The error as a sentence. -/
def message : HandlerError → String
  | canceled cause => cause
  | staleJob => "job information is stale"
  | fail error => "handler failed: " ++ error

/-- A short stable name of the kind of error. -/
def label : HandlerError → String
  | canceled _ => "wait_canceled"
  | staleJob => "job_stale"
  | fail _ => "handler_failed"

/-- The error with its parts. -/
def describe : HandlerError → String
  | canceled cause => Text.record "Canceled" [("cause", Text.quoted cause)]
  | staleJob => "StaleJob"
  | fail error => Text.record "Fail" [("error", Text.quoted error)]

def isStale : HandlerError → Bool
  | staleJob => true
  | _ => false

/-- Whether the wait was cancelled. -/
def isCanceled : HandlerError → Bool
  | canceled _ => true
  | _ => false

end HandlerError

/-- Why a feed could not be synced. -/
inductive SyncError where
  | watch (feed error : String)
  /-- The stream ended before the feed was synced. -/
  | feedClosed (feed : String)
  /-- The registration's context was cancelled. -/
  | canceled (cause : String)
  /-- The feed took longer than allowed. -/
  | timeout (limit : Duration)
deriving DecidableEq, Repr

namespace SyncError

/-- The error as a sentence. -/
def message : SyncError → String
  | watch feed error => "feed " ++ Text.quoted feed ++ " failed to start watch: " ++ error
  | feedClosed feed => "feed " ++ Text.quoted feed ++ " closed before cache sync"
  | canceled cause => "cache sync canceled: " ++ cause
  | timeout limit => "cache sync timed out after " ++ limit.text

/-- A short stable name of the kind of error. -/
def label : SyncError → String
  | watch _ _ => "sync_watch_failed"
  | feedClosed _ => "sync_feed_closed"
  | canceled _ => "sync_canceled"
  | timeout _ => "sync_timeout"

/-- The error with its parts. -/
def describe : SyncError → String
  | watch feed error =>
      Text.record "Watch" [("feed", Text.quoted feed), ("error", Text.quoted error)]
  | feedClosed feed => Text.record "FeedClosed" [("feed", Text.quoted feed)]
  | canceled cause => Text.record "Canceled" [("cause", Text.quoted cause)]
  | timeout limit => Text.record "Timeout" [("timeout", limit.text)]

end SyncError

/-- Why a limiter could not be set up. -/
inductive SetupError where
  /-- The configuration is refused. -/
  | config (error : ConfigError)
  /-- The pool would hold more tokens than a pool can count. -/
  | tooManyTokens
  /-- The bus would keep more events than a bus can number. -/
  | busTooLarge
deriving DecidableEq, Repr

namespace SetupError

/-- The error as a sentence. -/
def message : SetupError → String
  | config error => error.message
  | tooManyTokens =>
      "a semaphore may not have more than MAX_PERMITS permits (2305843009213693951)"
  | busTooLarge => "broadcast channel capacity exceeded `usize::MAX / 2`"

/-- A short stable name of the kind of error; the last two end the program that meets them. -/
def label : SetupError → String
  | config error => error.label
  | tooManyTokens => "panic"
  | busTooLarge => "panic"

end SetupError

end Admission
