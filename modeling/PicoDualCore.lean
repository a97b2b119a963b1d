import PicoDualCore.AtomicProgram
import PicoDualCore.PyValue
import PicoDualCore.DeviceValidation
import PicoDualCore.ConfigValidation
import PicoDualCore.Json
import PicoDualCore.JsonRoundTrip
import PicoDualCore.ConfigStore
import PicoDualCore.ConfigRecovery
import PicoDualCore.ConfigTransaction
import PicoDualCore.ConfigRollback
import PicoDualCore.ConfigPowerLoss
import PicoDualCore.MessageSerializer
import PicoDualCore.OutboundQueue
import PicoDualCore.QueueAdmission
import PicoDualCore.QueueAccounting
import PicoDualCore.RetentionLaw
import PicoDualCore.Base128
import PicoDualCore.Network
import PicoDualCore.MqttClient
import PicoDualCore.MqttInbound
import PicoDualCore.MqttRule
import PicoDualCore.MqttPublish
import PicoDualCore.MqttRoundTrip
import PicoDualCore.EnvelopeSplice
import PicoDualCore.ExceptPost
import PicoDualCore.ValidationSpec
import PicoDualCore.ConfigSpec
import PicoDualCore.JsonSize
import PicoDualCore.ConfigSize
import PicoDualCore.CommandResponse
import PicoDualCore.Drivers
import PicoDualCore.DriverSpec
import PicoDualCore.ConfigChanges
import PicoDualCore.Core0State
import PicoDualCore.Uptime
import PicoDualCore.Core0Ingress
import PicoDualCore.MqttSession
import PicoDualCore.Core0Run
import PicoDualCore.PublishCeiling
import PicoDualCore.Interleaving
import PicoDualCore.StoredConfig
import PicoDualCore.CommandIngress
import PicoDualCore.MqttAcknowledged
import PicoDualCore.Core0Steps
import PicoDualCore.AtomicLog
import PicoDualCore.AdmissionOutcome
import PicoDualCore.GpioOwnership
import PicoDualCore.MqttStream
import PicoDualCore.FrameSync
import PicoDualCore.AtomicClock
import PicoDualCore.WifiLink
import PicoDualCore.DriverReads
import PicoDualCore.DriverTimes
import PicoDualCore.DeviceManager
import PicoDualCore.Core1Run
import PicoDualCore.Core1Liveness
import PicoDualCore.Core0Walk
import PicoDualCore.Core0Schedule
import PicoDualCore.ScheduleSteps
import PicoDualCore.PublishRaises
import PicoDualCore.Core0Books
import PicoDualCore.Core0Effects
import PicoDualCore.Core0Service
import PicoDualCore.Core0Turns
import PicoDualCore.NumberedMessages
import PicoDualCore.Core0Record
import PicoDualCore.Core0Sender
import PicoDualCore.RecentWindow
import PicoDualCore.JsonReadBack
import PicoDualCore.ResponseAdmission
import PicoDualCore.DeviceLifecycle
import PicoDualCore.DeviceInvariant
import PicoDualCore.DeviceOrder
import PicoDualCore.DeviceReplay
import PicoDualCore.SensorExclusivity
import PicoDualCore.OneWireIdentity
import PicoDualCore.ValueEquality
import PicoDualCore.ChangeSummary
import PicoDualCore.Core1Schedule
import PicoDualCore.FeedbackRegister
import PicoDualCore.WordCrc
import PicoDualCore.OrderStatistic
import PicoDualCore.SampleBuffer
import PicoDualCore.PressureDivisor
import PicoDualCore.PublishPacing
import PicoDualCore.ReadConfigSize
import PicoDualCore.QueueArrivals
import PicoDualCore.StartupLog
import PicoDualCore.HealthReport
import PicoDualCore.SocketDiscipline
import PicoDualCore.UtcRequests
import PicoDualCore.TickGates
import PicoDualCore.PromptRetry
import PicoDualCore.SequenceNumbers
import PicoDualCore.OutboundDelivery
import PicoDualCore.EntryFates
import PicoDualCore.RebootSafety
import PicoDualCore.IngressRecord
import PicoDualCore.AnswerAccounts
import PicoDualCore.FrameLengths
import PicoDualCore.MessageTimestamps
