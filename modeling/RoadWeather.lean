import RoadWeather.Main
import RoadWeather.Proofs.Turns
import RoadWeather.Proofs.FirstUsable
import RoadWeather.Proofs.Assembly
import RoadWeather.Proofs.CheckedSources
import RoadWeather.Proofs.LatestValues
import RoadWeather.Proofs.StoredDescriptions
import RoadWeather.Proofs.Calendar
import RoadWeather.Proofs.Arrival
import RoadWeather.Proofs.Output
import RoadWeather.Proofs.Doubles
import RoadWeather.Proofs.NearestDouble
import RoadWeather.Proofs.ShortestDecimal
import RoadWeather.Proofs.NumberText
import RoadWeather.Proofs.JsonText
import RoadWeather.Proofs.Records
import RoadWeather.Proofs.DescriptionForms
import RoadWeather.Proofs.Reloading
import RoadWeather.Proofs.Misconfiguration
import RoadWeather.Proofs.Timeouts
import RoadWeather.Proofs.FiniteInputs
import RoadWeather.Proofs.WholeFiles
import RoadWeather.Proofs.Separation
import RoadWeather.Proofs.InputRanges
import RoadWeather.Proofs.LocationKeys
import RoadWeather.Proofs.Validation
import RoadWeather.Proofs.Quotients
import RoadWeather.Proofs.CatalogBuilding
import RoadWeather.Proofs.MoreData
import RoadWeather.Proofs.RefusalCauses
import RoadWeather.Proofs.KeyReading
import RoadWeather.Proofs.Trail
import RoadWeather.Proofs.TimestampText
import RoadWeather.Proofs.SnapshotFiles
import RoadWeather.Proofs.JsonGrammar
import RoadWeather.Proofs.RecordForms
import RoadWeather.Proofs.DocumentContent
