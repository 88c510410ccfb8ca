import LogIntake.CommandLine.Run
import LogIntake.Discovery.Rehearsal
import LogIntake.Event.Sink
import LogIntake.Event.Sharing
import LogIntake.File.Tail
import LogIntake.Main
import LogIntake.Negotiation.Negotiator
import LogIntake.Net.Network
import LogIntake.Receiver.StopSignal
import LogIntake.Receiver.Script
import LogIntake.Registry.Still
import LogIntake.Settings.Load
import LogIntake.Proofs.File.Growth
import LogIntake.Proofs.Receiver.Delivery
import LogIntake.Proofs.Receiver.Stretches
import LogIntake.Proofs.Receiver.Tailing
import LogIntake.Proofs.Registry.Creation
import LogIntake.Proofs.Registry.Farewell
import LogIntake.Proofs.Shape.Cut
import LogIntake.Proofs.Template.Language
import LogIntake.Proofs.Discovery.Services
import LogIntake.Proofs.Discovery.Threads
import LogIntake.Proofs.Discovery.Listening
import LogIntake.Proofs.Discovery.Answers
import LogIntake.Proofs.Registry.Alternation
import LogIntake.Proofs.Negotiation.Settlement
import LogIntake.Proofs.Record.WrittenLine
import LogIntake.Proofs.Event.TimeColumn
import LogIntake.Proofs.Template.Filled
import LogIntake.Proofs.Receiver.Protocol
import LogIntake.Proofs.Uri.Written
import LogIntake.Proofs.Uri.Secrets
import LogIntake.Proofs.Timestamp.HourLetters
import LogIntake.Proofs.Template.Preference
import LogIntake.Proofs.Template.LeadingTimestamp
import LogIntake.Proofs.CommandLine.Orderly
import LogIntake.Proofs.CommandLine.Printing
import LogIntake.Proofs.CommandLine.Rounds
import LogIntake.Proofs.File.Replacement
import LogIntake.Proofs.Record.RelativeTimes
import LogIntake.Proofs.Timestamp.WrittenOffset
import LogIntake.Proofs.Uri.Shown
import LogIntake.Proofs.Receiver.Ending
import LogIntake.Proofs.Receiver.SinglePass
import LogIntake.Proofs.Negotiation.Remembering
import LogIntake.Proofs.Negotiation.Asking
import LogIntake.Proofs.Uri.LocalPath
import LogIntake.Proofs.Registry.Refusal
import LogIntake.Proofs.Registry.Removal
import LogIntake.Proofs.Event.Search
import LogIntake.Proofs.Net.Polls
import LogIntake.Proofs.Net.Arrivals
import LogIntake.Proofs.Timestamp.WrittenPattern
import LogIntake.Proofs.Event.Sharing
import LogIntake.Proofs.Template.Tidy
