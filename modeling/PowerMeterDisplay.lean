import PowerMeterDisplay.Framing
import PowerMeterDisplay.Isolation
import PowerMeterDisplay.PayloadBytes
import PowerMeterDisplay.MenuAverages
import PowerMeterDisplay.Quotients
import PowerMeterDisplay.PeakPower
import PowerMeterDisplay.BarGraph
import PowerMeterDisplay.DisplayedChannel
import PowerMeterDisplay.Interrupts
import PowerMeterDisplay.Screen
import PowerMeterDisplay.PreemptedLoop
import PowerMeterDisplay.Boot
import PowerMeterDisplay.UsbHost
import PowerMeterDisplay.UsbTransactions
