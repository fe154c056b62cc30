import HomeMagic.ActorAuthenticationRuns
import HomeMagic.AutomationApproval
import HomeMagic.AutomationCalibration
import HomeMagic.AutomationDecimals
import HomeMagic.AutomationDesiredState
import HomeMagic.AutomationDueTimers
import HomeMagic.AutomationDueWork
import HomeMagic.AutomationFeedback
import HomeMagic.AutomationOwnership
import HomeMagic.AutomationSimulatorOnce
import HomeMagic.AutomationTimerIds
import HomeMagic.AutomationWaitDeadline
import HomeMagic.CommandDeadline
import HomeMagic.CommandEventLog
import HomeMagic.CommandIdempotency
import HomeMagic.CommandLimits
import HomeMagic.CommandPolicy
import HomeMagic.CommandRecoveryRounds
import HomeMagic.DeviceEventLog
import HomeMagic.EventReplay
import HomeMagic.EventStream
import HomeMagic.MatterCancellation
import HomeMagic.MatterGapRuns
import HomeMagic.MatterNodeProjection
import HomeMagic.MatterRecoveryRuns
import HomeMagic.MatterReportOrder
import HomeMagic.MatterSimulator
import HomeMagic.MatterUnlock
import HomeMagic.ObservationEvents
import HomeMagic.ObservationMerge
import HomeMagic.ReconciliationStability
import HomeMagic.SecretVaultAtomic
import HomeMagic.ShellySessionRuns
import HomeMagic.SidecarSync
import HomeMagic.StatusMerge
import HomeMagic.StoreRetention
