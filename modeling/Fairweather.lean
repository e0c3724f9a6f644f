import Fairweather.Main
import Fairweather.Plan.Catalogue
import Fairweather.Proofs.Expression.Reading
import Fairweather.Proofs.Plan.CanonicalText
import Fairweather.Proofs.Plan.Rows
import Fairweather.Proofs.Plan.Selection
import Fairweather.Proofs.Calendar.Order
import Fairweather.Proofs.Forecast.Spacing
import Fairweather.Proofs.Forecast.Grouping
import Fairweather.Proofs.Plan.Chronology
import Fairweather.Proofs.Calendar.Reading
import Fairweather.Proofs.Plan.Blocks
import Fairweather.Proofs.Plan.Lockstep
import Fairweather.Proofs.Plan.Precedence
import Fairweather.Proofs.Forecast.Loading
import Fairweather.Proofs.Plan.CalendarEnd
import Fairweather.Proofs.Text.Digits
import Fairweather.Proofs.Calendar.Days
import Fairweather.Proofs.Calendar.ReadBack
import Fairweather.Proofs.Plan.Tolerance
import Fairweather.Proofs.Plan.History
import Fairweather.Proofs.Text.Utf8
import Fairweather.Proofs.Command.Run
import Fairweather.Proofs.Plan.Application
import Fairweather.Proofs.Plan.Extension
import Fairweather.Proofs.Forecast.Progression
import Fairweather.Proofs.Number.Scaling
import Fairweather.Proofs.Json.Numbers
import Fairweather.Proofs.Json.ReadBack
import Fairweather.Proofs.Forecast.Records
import Fairweather.Proofs.Number.LongestMatch
import Fairweather.Proofs.Number.Order
import Fairweather.Proofs.Expression.Cursor
import Fairweather.Proofs.Expression.Blanks
import Fairweather.Proofs.Text.Lines
import Fairweather.Proofs.Plan.Strengthening
import Fairweather.Proofs.Plan.PlanText
import Fairweather.Proofs.Text.Slices
import Fairweather.Proofs.Expression.ByteCursor
import Fairweather.Proofs.Plan.Intersection
