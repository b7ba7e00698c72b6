import HeraldGateway.Gateway.System
import HeraldGateway.Grouping

/-!
# The flush of due digests

A flush hands every due entry to the job of its own wallet, and a digest lists every entry of its job. Both
group a list by a key: by the hash of the wallet, and by the category.
-/

namespace HeraldGateway

open Async

/-- The jobs are those of the wallets of some due rows: one for each wallet, with the rows of that wallet in
their order, and every row in one job. -/
structure PartitionsDue (due : List DigestRow) (jobs : List DigestJobData) : Prop where
  onePerWallet : (jobs.map (·.walletHash)).Nodup
  wallets : ∀ w, w ∈ jobs.map (·.walletHash) ↔ ∃ r ∈ due, r.walletHash = w
  ownRows : ∀ job ∈ jobs,
    job.entries = (due.filter fun r => r.walletHash = job.walletHash).map DigestRow.entry
  everyRow : (jobs.flatMap (·.entries)).Perm (due.map DigestRow.entry)

/-! ### The body of a digest -/

/-- `entry.category || 'general'` -/
def DigestEntry.group (e : DigestEntry) : JsString :=
  if e.category.isEmpty then js "general" else e.category

/-- The heading of a group of some entries. -/
def groupHeading (category : JsString) (count : Nat) : JsString :=
  categoryIcon category ++ js " **" ++ capitalize category ++ js "** (" ++ decimal count ++ js ")"

/-- The line that lists an entry. -/
def entryLine (env : Env) (e : DigestEntry) : JsString :=
  js "  • " ++ e.subject ++ js " _(" ++ env.localeTime e.queuedAt ++ js ")_"

/-- The line that announces the entries of a digest. -/
def announcement (count : Nat) : JsString :=
  js "Here's a summary of your " ++ decimal count ++ js " notification" ++
    (if count > 1 then js "s" else []) ++ js " since your last digest:\n"

/-- The lines that close a digest. -/
def closingLines : List JsString :=
  [js "---", js "You can adjust your digest preferences at [app.useherald.xyz](https://app.useherald.xyz)"]

/-- The lines of a group: the heading, a line for each entry, and a blank one. -/
def groupLines (env : Env) (g : JsString × List DigestEntry) : List JsString :=
  groupHeading g.1 g.2.length :: g.2.map (entryLine env) ++ [[]]

/-- The body announces the entries and lists each of them once, in its group, in their order. The counts of
the headings sum to the one announced. -/
def ListsEntries (env : Env) (entries : List DigestEntry) (body : JsString) : Prop :=
  ∃ groups : List (JsString × List DigestEntry),
    body = join (js "\n") (announcement entries.length :: groups.flatMap (groupLines env) ++ closingLines) ∧
    Grouped DigestEntry.group entries groups ∧
    (groups.flatMap Prod.snd).Perm entries ∧
    (groups.map fun g => g.2.length).sum = entries.length

/-! ### The jobs of a flush -/

/-- The digest job that a call enqueued. -/
def enqueuedDigest? (e : GatewayEvent) : Option DigestJobData :=
  match e.op with
  | .digestAdd data _ => if e.choice.fault.applies then some data else none
  | _ => none

/-- The digest jobs that were enqueued. -/
def enqueuedDigests (tr : List GatewayEvent) : List DigestJobData := tr.filterMap enqueuedDigest?

/-- The rows that were found due. -/
def foundRows (env : Env) (due : List DigestRow) (tr : List GatewayEvent) : Prop :=
  ∃ c s now, (World.handle env).event c s (.digestFindDue now) ∈ tr ∧
    (World.handle env c s (.digestFindDue now)).1 = .ok due

/-- A flush that returned enqueued the jobs of the rows it found due, and one that is under way or failed
some of the first of them. -/
def Flushes (env : Env) (t : GatewayThread) : Prop :=
  (enqueuedDigests t.trace = [] ∨
    ∃ due, foundRows env due t.trace ∧ enqueuedDigests t.trace <+: digestJobs due) ∧
  ∀ a, t.answer? = some a → ∃ due, foundRows env due t.trace ∧ enqueuedDigests t.trace = digestJobs due

end HeraldGateway
