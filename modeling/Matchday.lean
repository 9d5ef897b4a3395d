import Matchday.Main
import Matchday.Proofs.Rule.WellFormed
import Matchday.Proofs.Page.Slug
import Matchday.Proofs.Text.Blank
import Matchday.Proofs.Page.Folder
import Matchday.Proofs.Storage.Memory
import Matchday.Proofs.Storage.Record
import Matchday.Proofs.Storage.Attempt
import Matchday.Proofs.Refresh.Ended
import Matchday.Proofs.Refresh.Published
import Matchday.Proofs.Page.Stored
import Matchday.Proofs.Document.Content
import Matchday.Proofs.Page.ReadBack
import Matchday.Proofs.Config.Valid
import Matchday.Proofs.Refresh.Assembled
import Matchday.Proofs.Refresh.Asked
import Matchday.Proofs.Refresh.Reported
import Matchday.Proofs.Refresh.Accounted
import Matchday.Proofs.Page.Navigation
import Matchday.Proofs.Refresh.Separate
import Matchday.Proofs.Storage.Path
import Matchday.Proofs.Storage.Tree
import Matchday.Proofs.Storage.Folder
import Matchday.Proofs.Storage.Mirror
import Matchday.Proofs.Storage.Inside
import Matchday.Proofs.Refresh.Trial
import Matchday.Proofs.Page.Inside
import Matchday.Proofs.Refresh.Attempted
import Matchday.Proofs.Command.Several
import Matchday.Proofs.Json.Atom
import Matchday.Proofs.Json.Spelling
import Matchday.Proofs.Json.Reading
import Matchday.Proofs.Json.LeftOut
import Matchday.Proofs.Document.RoundTrip
import Matchday.Proofs.Text.Cut
import Matchday.Proofs.Fixture.Played
import Matchday.Proofs.Feed.Response
import Matchday.Proofs.Rule.Walk
import Matchday.Proofs.Rule.Registration
import Matchday.Proofs.Document.Placement
import Matchday.Proofs.Refresh.Fallback
import Matchday.Proofs.Refresh.Unstopped
import Matchday.Proofs.Refresh.Repeated
import Matchday.Proofs.Document.Legible
import Matchday.Proofs.Text.Occurrence
import Matchday.Proofs.Document.FreeText
import Matchday.Proofs.Rule.Paired
import Matchday.Proofs.Config.Unset
import Matchday.Proofs.Config.KeyTemplate
import Matchday.Proofs.Rule.Repeated
import Matchday.Proofs.Rule.Skipped
import Matchday.Proofs.Rule.Local
import Matchday.Proofs.Fixture.Stamp
import Matchday.Proofs.Rule.Pointing
import Matchday.Proofs.Page.Batch
import Matchday.Proofs.Json.ToTheEnd
import Matchday.Proofs.Json.Range
import Matchday.Proofs.Json.Place
import Matchday.Proofs.Json.Member
import Matchday.Proofs.Json.Field
import Matchday.Proofs.Document.Way
import Matchday.Proofs.Document.Number
import Matchday.Proofs.Rule.Team
import Matchday.Proofs.Config.Substitution
import Matchday.Proofs.Page.Hyphen
import Matchday.Proofs.Storage.Pool
import Matchday.Proofs.Refresh.Monitored
