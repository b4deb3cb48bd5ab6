import KeyFeed.Feed.Exchange
import KeyFeed.Main
import KeyFeed.Session.Desk
import KeyFeed.Session.Hookup
import KeyFeed.Settings.Writer
import KeyFeed.Proofs.Feed.Delivery
import KeyFeed.Proofs.Feed.Reception
import KeyFeed.Proofs.Session.Relay
import KeyFeed.Proofs.Session.Schedule
import KeyFeed.Proofs.Supervisor.Lifecycle
import KeyFeed.Proofs.Text.Digits
import KeyFeed.Proofs.Text.Fields
import KeyFeed.Proofs.Feed.LineText
import KeyFeed.Proofs.Feed.Wire
import KeyFeed.Proofs.Toml.Strings
import KeyFeed.Proofs.Bus.AddressText
import KeyFeed.Proofs.Settings.RoundTrip
import KeyFeed.Proofs.Supervisor.Shutdown
import KeyFeed.Proofs.Session.Deselection
import KeyFeed.Proofs.Command.History
import KeyFeed.Proofs.Session.Effects
import KeyFeed.Proofs.Supervisor.SourceClaims
import KeyFeed.Proofs.Supervisor.SignalDefaults
import KeyFeed.Proofs.Text.Numerals
import KeyFeed.Proofs.Text.Trimming
import KeyFeed.Proofs.Feed.LineGrammar
import KeyFeed.Proofs.Adapter.OsdName
import KeyFeed.Proofs.Bus.AddressGrammar
import KeyFeed.Proofs.Flags.Scan
import KeyFeed.Proofs.Settings.Options
import KeyFeed.Proofs.Bus.AddressNormal
import KeyFeed.Proofs.Feed.Membership
import KeyFeed.Proofs.Host.Places
import KeyFeed.Proofs.Session.Hearing
import KeyFeed.Proofs.Feed.Succession
import KeyFeed.Proofs.Session.Keystrokes
import KeyFeed.Proofs.Supervisor.KeyRange
import KeyFeed.Proofs.Bus.FrameNotation
import KeyFeed.Proofs.Adapter.Handles
