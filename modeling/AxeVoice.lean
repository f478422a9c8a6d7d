import AxeVoice.Foundation.Reactive
import AxeVoice.Sip.AccountRefinement
import AxeVoice.Sip.ReducerRuns
import AxeVoice.Sip.Revocation
import AxeVoice.Native.Cadence
import AxeVoice.Foundation.HighWater
import AxeVoice.Command.AtMostOnce
import AxeVoice.Sip.MailboxHistory
import AxeVoice.Native.RuntimeGuard
import AxeVoice.Native.IngressHistory
import AxeVoice.Cti.Idempotency
import AxeVoice.Cti.Polling
import AxeVoice.Cti.Readiness
import AxeVoice.Native.Subscription
import AxeVoice.Contacts.Book
import AxeVoice.Contacts.Backup
import AxeVoice.Contacts.RoundTrip
import AxeVoice.Contacts.Decoded
import AxeVoice.Contacts.Store
import AxeVoice.Contacts.Instances
import AxeVoice.Contacts.Window
import AxeVoice.Foundation.AsciiText
import AxeVoice.Sip.AddressForm
import AxeVoice.Sip.RecentDestinations
import AxeVoice.Foundation.MostRecent
import AxeVoice.Sip.RecentSlots
import AxeVoice.Sip.RecentHistory
import AxeVoice.Native.DestinationLanguage
import AxeVoice.Cti.Contract
import AxeVoice.Foundation.Socket
import AxeVoice.Cti.Http
import AxeVoice.Cti.HttpGate
import AxeVoice.Cti.Cursor
import AxeVoice.Cti.Framing
import AxeVoice.Cti.Disclosure
import AxeVoice.Foundation.Json
import AxeVoice.Cti.CallBody
import AxeVoice.Cti.ClickToCall
import AxeVoice.Native.RegistrationDispatch
import AxeVoice.Native.RegistrationRaces
import AxeVoice.Native.RegistrationFates
import AxeVoice.Native.RegistrationDeadlines
import AxeVoice.Audio.InventoryAsync
import AxeVoice.Foundation.Delimited
import AxeVoice.Native.ConfigLanguage
import AxeVoice.Foundation.CommandLine
import AxeVoice.Native.WindowsArguments
import AxeVoice.Native.EngineAccount
import AxeVoice.Native.EngineCredentials
import AxeVoice.Sip.AddressShapes
import AxeVoice.Contacts.Faults
import AxeVoice.Contacts.Query
import AxeVoice.Contacts.Import
import AxeVoice.Native.CommandAdmission
import AxeVoice.Audio.RingtonePlayer
import AxeVoice.Native.ProfileAudit
import AxeVoice.Native.BoundCalls
import AxeVoice.Native.NativeHost
import AxeVoice.Native.HostThreads
import AxeVoice.Native.HostCommands
import AxeVoice.Native.CallPort
import AxeVoice.Native.CallEngine
import AxeVoice.Native.CallCommands
import AxeVoice.Foundation.Component
import AxeVoice.Native.CallOperations
import AxeVoice.Cti.ServerQueue
import AxeVoice.Desktop.Dialing
import AxeVoice.Desktop.Requests
import AxeVoice.Desktop.SentRequests
import AxeVoice.Desktop.Outcomes
import AxeVoice.Desktop.Links
import AxeVoice.Foundation.Handles
import AxeVoice.Native.WindowsProcess
import AxeVoice.Native.ProcessHandles
import AxeVoice.Desktop.Shutdown
import AxeVoice.Audio.DevicePanel
import AxeVoice.Audio.DeviceFreshness
import AxeVoice.Audio.IncomingAlert
import AxeVoice.Foundation.Conveyance
import AxeVoice.Desktop.CallPanel
import AxeVoice.Desktop.CallIntents
import AxeVoice.Desktop.CallControls
import AxeVoice.Desktop.CallGates
import AxeVoice.Desktop.CallClock
import AxeVoice.Desktop.AccountForm
import AxeVoice.Desktop.RememberedAccount
