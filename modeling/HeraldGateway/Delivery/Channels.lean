import HeraldGateway.ChannelDispatch

/-!
# The choice of channels

`NotifyDto` documents what a preferred channel, a list of channels and a priority do to the channels that
`resolveAllowedChannels` allows.
-/

namespace HeraldGateway

/-- The recipient has a contact for the channel. -/
def DecryptedChannels.has (channels : DecryptedChannels) : Channel → Bool
  | .email => truthy channels.email
  | .telegram => truthy channels.telegramChatId
  | .sms => truthy channels.phone
  | .other _ => false

namespace NotificationJobData

variable (channels : DecryptedChannels) (job : NotificationJobData)

/-- A channel that the request excludes. -/
def excludes (c : Channel) : Bool := (job.excludedChannels.getD []).contains c

/-- The priority asks for SMS. -/
def urgent : Bool := job.priority == some .important || job.priority == some .critical

/-- SMS could be used. -/
def smsUsable : Bool := (registeredChannels channels (job.tier.getD 0)).contains .sms && !job.excludes .sms

/-- The request lists channels, and not this one. -/
def Unlisted (c : Channel) : Prop := ∃ l, job.channels = some l ∧ l ≠ [] ∧ c ∉ l

instance (c : Channel) : Decidable (job.Unlisted c) :=
  match h : job.channels with
  | none => isFalse fun ⟨_, hl, _⟩ => by rw [h] at hl; exact absurd hl nofun
  | some l => decidable_of_iff (l ≠ [] ∧ c ∉ l) (by simp [Unlisted, h])

/-- The channels that are available to a request: registered, permitted, not excluded, and listed if it lists
any. -/
def available : List Channel :=
  (registeredChannels channels (job.tier.getD 0)).filter fun c => !job.excludes c && !decide (job.Unlisted c)

/-- The request prefers a channel for which the recipient has no contact. -/
def PrefersUnregistered : Prop := ∃ c, job.preferredChannel = some c ∧ channels.has c = false

end NotificationJobData

/-- What the preference, the list and the exclusions leave of the registered channels. -/
def selectedChannels (channels : DecryptedChannels) (job : NotificationJobData) : List Channel :=
  let registered := registeredChannels channels (job.tier.getD 0)
  match explicitChannels job with
  | some explicit => explicit.filter fun c => registered.contains c && !job.excludes c
  | none => registered.filter fun c => !job.excludes c

/-- What the priority adds to it. -/
def escalatedChannels (channels : DecryptedChannels) (job : NotificationJobData) : List Channel :=
  if job.urgent && job.smsUsable channels &&
    !(selectedChannels channels job).contains .sms then [.sms] else []

/-- The documented contract of `resolveAllowedChannels`. -/
structure FollowsContract (channels : DecryptedChannels) (job : NotificationJobData) : Prop where
  /-- Only channels that are registered, that the tier permits and that are not excluded. -/
  permitted : ∀ c ∈ resolveAllowedChannels channels job,
    c ∈ registeredChannels channels (job.tier.getD 0) ∧ job.excludes c = false
  /-- In the fixed order. -/
  ordered : (resolveAllowedChannels channels job).Pairwise fun a b => channelIndex a ≤ channelIndex b
  /-- "Falls back to the next available channel if recipient has not registered the preferred one." -/
  fallsBack : job.PrefersUnregistered channels →
    resolveAllowedChannels channels job = job.available channels
  /-- "Explicit channels list takes precedence over priority flag." -/
  listed : ∀ c ∈ resolveAllowedChannels channels job, job.Unlisted c →
    c ∈ resolveAllowedChannels channels { job with priority := some .normal }

/-- What becomes of the preference is right by chance: an urgent request has only SMS left, or another one has
nothing. -/
def FallbackVacuous (channels : DecryptedChannels) (job : NotificationJobData) : Prop :=
  job.available channels = if job.urgent && job.smsUsable channels then [.sms] else []

/-- The priority has nothing to add to a list without SMS. -/
def EscalationListed (channels : DecryptedChannels) (job : NotificationJobData) : Prop :=
  job.Unlisted .sms → job.urgent = true → job.smsUsable channels = true → job.preferredChannel = some .sms

end HeraldGateway
